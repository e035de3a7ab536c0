import Mathlib.Algebra.Order.BigOperators.Group.List
import Mathlib.Algebra.Order.Group.Nat
import MutsukiServiceHost.ListUpdateProofs
import MutsukiServiceHost.ServiceCallbackProofs

/-! # The lifetime of an ABI v2 plugin

    The connection and the five callback workers hold the plugin together.  A
    worker takes a frame off its lane, calls the plugin, hands the plugin's
    buffer back and sends the answer; it stops when the writer is gone and its
    lane is empty, or when nobody reads its answers any more.  The last worker of
    a lane drops what is still queued there.  Whoever lets go last calls `close`
    and unloads the library.

    * `lifetime_law` — in every run each worker's calls are whole exchanges in
      which every buffer is released once, `close` comes once, after all of them,
      no frame the writer handed over is sent twice, and none is lost while the
      reader lives.
    * `lifetime_ends` — once the writer and the connection are gone the plugin is
      closed and unloaded, however the threads take turns. -/

namespace ServiceLifetime

open Transition ServiceCallback

/-! ## The calls into the library -/

/-- The payload is memory of the plugin, which `invoke` gives back. -/
def owned (result : CallbackResult) : Bool := result.valid && 0 < result.len

/-- What the host does with the library: the request of a worker and its return,
    `release` of a payload, `close`, and the unloading. -/
inductive PluginCall where
  | request (worker : Nat) (lane : Lane) (frame : Frame)
  | response (worker : Nat) (result : CallbackResult)
  | release (worker : Nat) (payload : Frame)
  | close
  | unload

/-- The call is one of a worker's. -/
def PluginCall.ofWorker (i : Nat) : PluginCall → Bool
  | .request worker _ _ | .response worker _ | .release worker _ => worker = i
  | .close | .unload => false

/-- The frame of a request that came over `lane`. -/
def PluginCall.requested (lane : Lane) : PluginCall → Option Frame
  | .request _ lane' frame => if lane' = lane then some frame else none
  | _ => none

/-- The frame that is sent back for a response. -/
def PluginCall.answer : PluginCall → Option Frame
  | .response _ result => some (invoke result)
  | _ => none

/-- A worker of `spawn_workers` between `recv` and `send`. -/
inductive Turn where
  | waiting
  | received (lane : Lane) (frame : Frame)
  | calling (lane : Lane) (frame : Frame)
  | returned (lane : Lane) (frame : Frame) (result : CallbackResult)
  | finished (lane : Lane) (frame : Frame) (result : CallbackResult)

/-- `invoke` after the callback has returned: only a payload is released. -/
def afterCall (lane : Lane) (frame : Frame) (result : CallbackResult) : Turn :=
  if owned result then .returned lane frame result else .finished lane frame result

/-- The calls `invoke` makes for one frame. -/
def exchange (i : Nat) (call : Lane × Frame × CallbackResult) : List PluginCall :=
  [.request i call.1 call.2.1, .response i call.2.2]
    ++ if owned call.2.2 then [.release i call.2.2.payload] else []

/-- Those of them that have been made. -/
def Turn.made (i : Nat) : Turn → List PluginCall
  | .waiting | .received _ _ => []
  | .calling lane frame => [.request i lane frame]
  | .returned lane frame result => [.request i lane frame, .response i result]
  | .finished lane frame result => exchange i (lane, frame, result)

/-- A frame of `lane` that has been taken and not passed on to the plugin. -/
def Turn.holding (lane : Lane) : Turn → Option Frame
  | .received lane' frame => if lane' = lane then some frame else none
  | _ => none

/-- An answer that has not been sent. -/
def Turn.unsent : Turn → Option Frame
  | .returned _ _ result | .finished _ _ result => some (invoke result)
  | _ => none

/-! ## The plugin and its holders -/

/-- `PluginLifetime`: alive while it is held, then `close` and the unloading. -/
inductive Phase where
  | live
  | closed
  | unloaded
  deriving DecidableEq, Repr

/-- The last calls. -/
def Phase.calls : Phase → List PluginCall
  | .live => []
  | .closed => [.close]
  | .unloaded => [.close, .unload]

/-- The `Arc<PluginLifetime>` with its holders: `V2Connection` and the workers of
    `stream`.  `accepted` and `taken` are the frames that the writer has put into
    the lanes and the workers have taken from them so far. -/
structure AbiPlugin where
  stream : CallbackStream
  turns : List Turn
  readerAlive : Bool
  connected : Bool
  phase : Phase
  calls : List PluginCall
  accepted : Lane → List Frame
  taken : Lane → List Frame

/-- `V2Connection::open`, after the entry has been accepted. -/
def opened : AbiPlugin where
  stream := callbackIo
  turns := List.replicate 5 .waiting
  readerAlive := true
  connected := true
  phase := .live
  calls := []
  accepted _ := []
  taken _ := []

/-- The workers of the lane have stopped, and its receiver is gone. -/
def laneClosed (t : CallbackStream) (lane : Lane) : Bool :=
  t.workers.all fun w => w.lane ≠ lane ∨ w.state = .stopped

/-- A worker leaves its loop.  With the last one of a lane goes the receiver, and
    with that what is queued. -/
def leave (t : CallbackStream) (i : Nat) (lane : Lane) : CallbackStream :=
  let t := t.setWorker i ⟨lane, .stopped⟩
  if laneClosed t lane then t.setQueue lane [] else t

/-- A worker holds the plugin as long as it holds a sender. -/
def AbiPlugin.held (s : AbiPlugin) : Bool := s.connected || s.stream.sendersAlive

/-- The stream has moved by itself. -/
def AbiPlugin.setStream (s : AbiPlugin) (stream : CallbackStream) : AbiPlugin :=
  { s with stream := stream }

/-- `flush` has returned. -/
def AbiPlugin.flushed (s : AbiPlugin) (stream : CallbackStream) : AbiPlugin :=
  { s with
    stream := stream
    accepted := fun lane =>
      s.accepted lane ++ (stream.queue lane).drop (s.stream.queue lane).length }

/-- A worker has come to the next turn after calls into the library. -/
def AbiPlugin.advance (s : AbiPlugin) (i : Nat) (turn : Turn) (made : List PluginCall) :
    AbiPlugin :=
  { s with turns := s.turns.set i turn, calls := s.calls ++ made }

/-- Who moves: the writer, the reader's caller, an owner that lets go, a worker,
    or the thread of the last holder. -/
inductive Event where
  | write (bytes : List UInt8)
  | flush
  | closeWriter
  | call (c : ReaderCall)
  | dropReader
  | dropConnection
  | receive (worker : Nat)
  | request (worker : Nat)
  | respond (worker : Nat) (result : CallbackResult)
  | release (worker : Nat)
  | send (worker : Nat)
  | stop (worker : Nat)
  | close
  | unload

/-- One step; `none` where it is not the mover's turn. -/
def step (route : Frame → Option Lane) (s : AbiPlugin) : Event → Option AbiPlugin
  | .write bytes => (ServiceCallback.step route s.stream (.write bytes)).map s.setStream
  | .flush => (ServiceCallback.step route s.stream .flush).map s.flushed
  | .closeWriter => (ServiceCallback.step route s.stream .closeWriter).map s.setStream
  | .call c =>
      if s.readerAlive then (ServiceCallback.step route s.stream (.call c)).map s.setStream
      else none
  | .dropReader => if s.readerAlive then some { s with readerAlive := false } else none
  | .dropConnection => if s.connected then some { s with connected := false } else none
  | .receive i =>
      match s.stream.workers[i]? with
      | some ⟨lane, .idle⟩ =>
          match s.stream.queue lane with
          | frame :: _ =>
              (ServiceCallback.step route s.stream (.receive i)).map fun stream =>
                { s with
                  stream := stream
                  turns := s.turns.set i (.received lane frame)
                  taken := Function.update s.taken lane (s.taken lane ++ [frame]) }
          | [] => none
      | _ => none
  | .request i =>
      match s.turns[i]? with
      | some (.received lane frame) =>
          some (s.advance i (.calling lane frame) [.request i lane frame])
      | _ => none
  | .respond i result =>
      match s.turns[i]? with
      | some (.calling lane frame) =>
          some (s.advance i (afterCall lane frame result) [.response i result])
      | _ => none
  | .release i =>
      match s.turns[i]? with
      | some (.returned lane frame result) =>
          some (s.advance i (.finished lane frame result) [.release i result.payload])
      | _ => none
  | .send i =>
      match s.turns[i]? with
      | some (.finished lane _ result) =>
          if s.readerAlive then
            (ServiceCallback.step route s.stream (.respond i result)).map fun stream =>
              (s.setStream stream).advance i .waiting []
          -- the answer is lost, and the worker leaves its loop
          else some ((s.setStream (leave s.stream i lane)).advance i .waiting [])
      | _ => none
  -- `recv` fails only on an empty lane, so nothing is left in its queue
  | .stop i => (ServiceCallback.step route s.stream (.stop i)).map s.setStream
  | .close =>
      -- `Drop` runs in the thread that held it last
      if s.held = false ∧ s.phase = .live then
        some { s with phase := .closed, calls := s.calls ++ [.close] }
      else none
  | .unload =>
      if s.phase = .closed then
        some { s with phase := .unloaded, calls := s.calls ++ [.unload] }
      else none

/-- The moves that bring a plugin without owners to its end. -/
def own : Event → Bool
  | .receive _ | .request _ | .respond _ _ | .release _ | .send _ | .stop _ | .close | .unload =>
      true
  | _ => false

/-- The library has been unloaded. -/
def unloads : Event → Bool
  | .unload => true
  | _ => false

/-! ## One step -/

section Step

variable {route : Frame → Option Lane} {s s' : AbiPlugin} {e : Event}

/-- The stream has moved, but not its workers and its lanes. -/
structure Quiet (t t' : CallbackStream) : Prop where
  workers : t'.workers = t.workers
  queue : t'.queue = t.queue
  arrived : t'.arrived = t.arrived
  writer : t'.writerAlive = true → t.writerAlive = true

/-- The writer has handed over at most a frame. -/
structure Flushed (t t' : CallbackStream) : Prop where
  workers : t'.workers = t.workers
  queue : ∀ lane, t.queue lane <+: t'.queue lane
  bounded : ∀ lane, (t'.queue lane).length ≤ max (t.queue lane).length lane.limit
  opened : ∀ lane, t'.queue lane ≠ t.queue lane → laneClosed t lane = false
  arrived : t'.arrived = t.arrived
  writer : t'.writerAlive = t.writerAlive

theorem quiet_write {t t' : CallbackStream} {bytes : List UInt8}
    (h : ServiceCallback.step route t (.write bytes) = some t') : Quiet t t' := by
  simp only [ServiceCallback.step, Option.ite_none_right_eq_some, Option.some.injEq] at h
  obtain ⟨halive, rfl⟩ := h
  exact ⟨rfl, rfl, rfl, fun _ => halive⟩

theorem quiet_closeWriter {t t' : CallbackStream}
    (h : ServiceCallback.step route t .closeWriter = some t') : Quiet t t' := by
  simp only [ServiceCallback.step, Option.ite_none_right_eq_some, Option.some.injEq] at h
  obtain ⟨-, rfl⟩ := h
  exact ⟨rfl, rfl, rfl, fun halive => absurd halive Bool.false_ne_true⟩

theorem quiet_call {t t' : CallbackStream} {c : ReaderCall}
    (h : ServiceCallback.step route t (.call c) = some t') : Quiet t t' := by
  obtain ⟨ret, -, rfl⟩ := Option.map_eq_some_iff.mp h
  exact ⟨rfl, rfl, rfl, id⟩

theorem flushed_of_step {t t' : CallbackStream}
    (h : ServiceCallback.step route t .flush = some t') :
    t.writerAlive = true ∧ Flushed t t' := by
  simp only [ServiceCallback.step, Option.ite_none_right_eq_some] at h
  obtain ⟨halive, h⟩ := h
  refine ⟨halive, ?_⟩
  unfold CallbackStream.flush at h
  split at h
  · obtain rfl := Option.some.inj h
    exact ⟨rfl, fun _ => List.prefix_rfl, fun _ => le_max_left _ _, fun _ hne => absurd rfl hne,
      rfl, rfl⟩
  · split at h
    · obtain rfl := Option.some.inj h
      exact ⟨rfl, fun _ => List.prefix_rfl, fun _ => le_max_left _ _, fun _ hne => absurd rfl hne,
        rfl, rfl⟩
    · rename_i lane _
      split at h
      · obtain rfl := Option.some.inj h
        exact ⟨rfl, fun _ => List.prefix_rfl, fun _ => le_max_left _ _, fun _ hne => absurd rfl hne,
          rfl, rfl⟩
      · rename_i hopen
        split at h
        · rename_i hroom
          obtain rfl := Option.some.inj h
          refine ⟨rfl, fun lane' => ?_, fun lane' => ?_, fun lane' hne => ?_, rfl, rfl⟩
          · show t.queue lane' <+: Function.update t.queue lane (t.queue lane ++ [t.buffer]) lane'
            by_cases hlane : lane' = lane
            · rw [hlane, Function.update_self]
              exact List.prefix_append _ _
            · rw [Function.update_of_ne hlane]
          · show (Function.update t.queue lane (t.queue lane ++ [t.buffer]) lane').length ≤ _
            by_cases hlane : lane' = lane
            · rw [hlane, Function.update_self, List.length_append, List.length_singleton]
              exact le_max_of_le_right hroom
            · rw [Function.update_of_ne hlane]
              exact le_max_left _ _
          · by_cases hlane : lane' = lane
            · rw [hlane]
              exact Bool.not_eq_true _ ▸ hopen
            · exact absurd (Function.update_of_ne hlane _ _) hne
        · cases h

/-- What one step does. -/
inductive Move (route : Frame → Option Lane) (s : AbiPlugin) : Event → AbiPlugin → Prop where
  | quiet (e : Event) (e' : ServiceCallback.Event) (stream : CallbackStream) : own e = false →
      ServiceCallback.step route s.stream e' = some stream → Quiet s.stream stream →
      Move route s e (s.setStream stream)
  | flush (stream : CallbackStream) : s.stream.writerAlive = true →
      ServiceCallback.step route s.stream .flush = some stream → Flushed s.stream stream →
      Move route s .flush (s.flushed stream)
  | dropReader : Move route s .dropReader { s with readerAlive := false }
  | dropConnection : Move route s .dropConnection { s with connected := false }
  | receive (i : Nat) (lane : Lane) (frame : Frame) (frames : List Frame) :
      s.stream.workers[i]? = some ⟨lane, .idle⟩ → s.stream.queue lane = frame :: frames →
      Move route s (.receive i) { s with
        stream := (s.stream.setQueue lane frames).setWorker i ⟨lane, .calling frame⟩
        turns := s.turns.set i (.received lane frame)
        taken := Function.update s.taken lane (s.taken lane ++ [frame]) }
  | request (i : Nat) (lane : Lane) (frame : Frame) :
      s.turns[i]? = some (.received lane frame) →
      Move route s (.request i) (s.advance i (.calling lane frame) [.request i lane frame])
  | respond (i : Nat) (lane : Lane) (frame : Frame) (result : CallbackResult) :
      s.turns[i]? = some (.calling lane frame) →
      Move route s (.respond i result)
        (s.advance i (afterCall lane frame result) [.response i result])
  | release (i : Nat) (lane : Lane) (frame : Frame) (result : CallbackResult) :
      s.turns[i]? = some (.returned lane frame result) →
      Move route s (.release i)
        (s.advance i (.finished lane frame result) [.release i result.payload])
  | send (i : Nat) (lane lane' : Lane) (frame frame' : Frame) (result : CallbackResult) :
      s.turns[i]? = some (.finished lane frame result) → s.readerAlive = true →
      s.stream.workers[i]? = some ⟨lane', .calling frame'⟩ →
      Move route s (.send i) ((s.setStream { s.stream.setWorker i ⟨lane', .idle⟩ with
        responses := s.stream.responses ++ [invoke result]
        arrived := s.stream.arrived ++ [invoke result] }).advance i .waiting [])
  | lost (i : Nat) (lane : Lane) (frame : Frame) (result : CallbackResult) :
      s.turns[i]? = some (.finished lane frame result) → s.readerAlive = false →
      Move route s (.send i) ((s.setStream (leave s.stream i lane)).advance i .waiting [])
  | stop (i : Nat) (lane : Lane) : s.stream.workers[i]? = some ⟨lane, .idle⟩ →
      s.stream.writerAlive = false → s.stream.queue lane = [] →
      Move route s (.stop i) (s.setStream (s.stream.setWorker i ⟨lane, .stopped⟩))
  | close : s.held = false → s.phase = .live →
      Move route s .close { s with phase := .closed, calls := s.calls ++ [.close] }
  | unload : s.phase = .closed →
      Move route s .unload { s with phase := .unloaded, calls := s.calls ++ [.unload] }

/-- **ONE STEP** is one of the moves. -/
theorem step_move (h : step route s e = some s') : Move route s e s' := by
  cases e with
  | write bytes =>
      obtain ⟨stream, hstep, rfl⟩ := Option.map_eq_some_iff.mp h
      exact .quiet _ _ stream rfl hstep (quiet_write hstep)
  | flush =>
      obtain ⟨stream, hstep, rfl⟩ := Option.map_eq_some_iff.mp h
      obtain ⟨halive, hflushed⟩ := flushed_of_step hstep
      exact .flush stream halive hstep hflushed
  | closeWriter =>
      obtain ⟨stream, hstep, rfl⟩ := Option.map_eq_some_iff.mp h
      exact .quiet _ _ stream rfl hstep (quiet_closeWriter hstep)
  | call c =>
      obtain ⟨-, h⟩ := Option.ite_none_right_eq_some.mp h
      obtain ⟨stream, hstep, rfl⟩ := Option.map_eq_some_iff.mp h
      exact .quiet _ _ stream rfl hstep (quiet_call hstep)
  | dropReader =>
      simp only [step, Option.ite_none_right_eq_some, Option.some.injEq] at h
      obtain ⟨-, rfl⟩ := h
      exact .dropReader
  | dropConnection =>
      simp only [step, Option.ite_none_right_eq_some, Option.some.injEq] at h
      obtain ⟨-, rfl⟩ := h
      exact .dropConnection
  | receive i =>
      simp only [step] at h
      split at h
      · rename_i lane hworker
        split at h
        · rename_i frame frames hqueue
          simp only [ServiceCallback.step, hworker, hqueue, Option.map_some,
            Option.some.injEq] at h
          subst h
          exact .receive i lane frame frames hworker hqueue
        · cases h
      · cases h
  | request i =>
      simp only [step] at h
      split at h
      · rename_i lane frame hturn
        obtain rfl := Option.some.inj h
        exact .request i lane frame hturn
      · cases h
  | respond i result =>
      simp only [step] at h
      split at h
      · rename_i lane frame hturn
        obtain rfl := Option.some.inj h
        exact .respond i lane frame result hturn
      · cases h
  | release i =>
      simp only [step] at h
      split at h
      · rename_i lane frame result hturn
        obtain rfl := Option.some.inj h
        exact .release i lane frame result hturn
      · cases h
  | send i =>
      simp only [step] at h
      split at h
      · rename_i lane frame result hturn
        split at h
        · rename_i halive
          obtain ⟨stream, hstep, rfl⟩ := Option.map_eq_some_iff.mp h
          simp only [ServiceCallback.step] at hstep
          split at hstep
          · rename_i lane' frame' hworker
            obtain rfl := Option.some.inj hstep
            exact .send i lane lane' frame frame' result hturn halive hworker
          · cases hstep
        · rename_i halive
          obtain rfl := Option.some.inj h
          exact .lost i lane frame result hturn (Bool.not_eq_true _ ▸ halive)
      · cases h
  | stop i =>
      obtain ⟨stream, hstep, rfl⟩ := Option.map_eq_some_iff.mp h
      simp only [ServiceCallback.step] at hstep
      split at hstep
      · rename_i lane hworker
        simp only [Option.ite_none_right_eq_some, Option.some.injEq] at hstep
        obtain ⟨⟨halive, hqueue⟩, rfl⟩ := hstep
        exact .stop i lane hworker halive hqueue
      · cases hstep
  | close =>
      simp only [step, Option.ite_none_right_eq_some, Option.some.injEq] at h
      obtain ⟨⟨hheld, hphase⟩, rfl⟩ := h
      exact .close hheld hphase
  | unload =>
      simp only [step, Option.ite_none_right_eq_some, Option.some.injEq] at h
      obtain ⟨hphase, rfl⟩ := h
      exact .unload hphase

end Step

/-! ## The workers and their turns -/

section Turns

variable {workers : List Worker} {turns : List Turn} {i : Nat} {worker : Worker} {turn : Turn}

/-- The turn a worker of the stream can be in. -/
inductive Matched : Worker → Turn → Prop where
  | idle (lane : Lane) : Matched ⟨lane, .idle⟩ .waiting
  | stopped (lane : Lane) : Matched ⟨lane, .stopped⟩ .waiting
  | received (lane : Lane) (frame : Frame) :
      Matched ⟨lane, .calling frame⟩ (.received lane frame)
  | calling (lane : Lane) (frame : Frame) : Matched ⟨lane, .calling frame⟩ (.calling lane frame)
  | returned (lane : Lane) (frame : Frame) (result : CallbackResult) : owned result = true →
      Matched ⟨lane, .calling frame⟩ (.returned lane frame result)
  | finished (lane : Lane) (frame : Frame) (result : CallbackResult) :
      Matched ⟨lane, .calling frame⟩ (.finished lane frame result)

/-- Every worker is in a turn of its own. -/
structure InTurn (workers : List Worker) (turns : List Turn) : Prop where
  length : turns.length = workers.length
  matched : ∀ (i : Nat) (worker : Worker) (turn : Turn), workers[i]? = some worker →
    turns[i]? = some turn → Matched worker turn

theorem InTurn.exists_worker (h : InTurn workers turns) (hturn : turns[i]? = some turn) :
    ∃ worker, workers[i]? = some worker ∧ Matched worker turn := by
  have hlt : i < workers.length := h.length ▸ ListUpdate.lt_length_of_getElem? hturn
  have hworker : workers[i]? = some workers[i] := List.getElem?_eq_getElem hlt
  exact ⟨workers[i], hworker, h.matched i _ _ hworker hturn⟩

theorem InTurn.exists_turn (h : InTurn workers turns) (hworker : workers[i]? = some worker) :
    ∃ turn, turns[i]? = some turn ∧ Matched worker turn := by
  have hlt : i < turns.length := h.length ▸ ListUpdate.lt_length_of_getElem? hworker
  have hturn : turns[i]? = some turns[i] := List.getElem?_eq_getElem hlt
  exact ⟨turns[i], hturn, h.matched i _ _ hworker hturn⟩

/-- A worker and its turn are replaced together, -/
theorem InTurn.set (h : InTurn workers turns) (hm : Matched worker turn) :
    InTurn (workers.set i worker) (turns.set i turn) := by
  refine ⟨by simp [h.length], fun j w t hw ht => ?_⟩
  obtain ⟨rfl, rfl⟩ | ⟨hne, hw⟩ := ListUpdate.getElem?_set_inv hw
  · obtain ⟨-, rfl⟩ | ⟨hne, -⟩ := ListUpdate.getElem?_set_inv ht
    · exact hm
    · exact absurd rfl hne
  · obtain ⟨rfl, -⟩ | ⟨-, ht⟩ := ListUpdate.getElem?_set_inv ht
    · exact absurd rfl hne
    · exact h.matched j w t hw ht

/-- a turn alone, -/
theorem InTurn.setTurn (h : InTurn workers turns) (hworker : workers[i]? = some worker)
    (hm : Matched worker turn) : InTurn workers (turns.set i turn) := by
  refine ⟨by simp [h.length], fun j w t hw ht => ?_⟩
  obtain ⟨rfl, rfl⟩ | ⟨-, ht⟩ := ListUpdate.getElem?_set_inv ht
  · obtain rfl := Option.some.inj (hworker.symm.trans hw)
    exact hm
  · exact h.matched j w t hw ht

/-- or a worker alone. -/
theorem InTurn.setWorker (h : InTurn workers turns) (hturn : turns[i]? = some turn)
    (hm : Matched worker turn) : InTurn (workers.set i worker) turns := by
  refine ⟨by simp [h.length], fun j w t hw ht => ?_⟩
  obtain ⟨rfl, rfl⟩ | ⟨-, hw⟩ := ListUpdate.getElem?_set_inv hw
  · obtain rfl := Option.some.inj (hturn.symm.trans ht)
    exact hm
  · exact h.matched j w t hw ht

theorem matched_afterCall (lane : Lane) (frame : Frame) (result : CallbackResult) :
    Matched ⟨lane, .calling frame⟩ (afterCall lane frame result) := by
  rw [afterCall]
  split
  · rename_i howned
    exact .returned lane frame result howned
  · exact .finished lane frame result

/-- A worker that keeps its lane. -/
theorem map_lane_set (hworker : workers[i]? = some worker) {worker' : Worker}
    (hlane : worker'.lane = worker.lane) :
    (workers.set i worker').map Worker.lane = workers.map Worker.lane := by
  rw [List.map_set, hlane]
  refine List.ext_getElem? fun j => ?_
  by_cases hij : i = j
  · subst hij
    rw [List.getElem?_set_self', List.getElem?_map, hworker]
    rfl
  · rw [List.getElem?_set_ne hij]

/-- Only an idle or a stopped worker waits. -/
theorem Matched.calling_of_ne_waiting (h : Matched worker turn) (hturn : turn ≠ .waiting) :
    ∃ frame, worker.state = .calling frame := by
  cases h with
  | idle lane | stopped lane => exact absurd rfl hturn
  | received lane frame | calling lane frame => exact ⟨frame, rfl⟩
  | returned lane frame result howned => exact ⟨frame, rfl⟩
  | finished lane frame result => exact ⟨frame, rfl⟩

end Turns

/-! ## The calls of one worker -/

section Calls

variable {calls made : List PluginCall} {turns : List Turn} {i : Nat} {turn turn' : Turn}

/-- Each worker has made whole exchanges and the calls of its turn. -/
def Whole (calls : List PluginCall) (turns : List Turn) : Prop :=
  ∀ i, ∃ done : List (Lane × Frame × CallbackResult), calls.filter (PluginCall.ofWorker i)
    = done.flatMap (exchange i) ++ ((turns[i]?).getD .waiting).made i

/-- The calls of one worker are not another's. -/
theorem ofWorker_of_ne {c : PluginCall} {i j : Nat} (hc : c.ofWorker i = true) (hne : i ≠ j) :
    c.ofWorker j = false := by
  cases c with
  | request worker lane frame | response worker result | release worker payload =>
      obtain rfl := of_decide_eq_true hc
      exact decide_eq_false hne
  | close | unload => rfl

/-- A worker that makes the calls of its next turn. -/
theorem Whole.advance (h : Whole calls turns) (hturn : turns[i]? = some turn)
    (hmade : ∀ c ∈ made, c.ofWorker i = true)
    (hnext : ∃ done : List (Lane × Frame × CallbackResult),
      turn.made i ++ made = done.flatMap (exchange i) ++ turn'.made i) :
    Whole (calls ++ made) (turns.set i turn') := by
  intro j
  obtain ⟨done, hdone⟩ := h j
  rw [List.filter_append, hdone]
  by_cases hij : i = j
  · subst hij
    obtain ⟨done', hdone'⟩ := hnext
    refine ⟨done ++ done', ?_⟩
    have hlt := ListUpdate.lt_length_of_getElem? hturn
    rw [List.filter_eq_self.mpr hmade, hturn, List.getElem?_set_self hlt, Option.getD_some,
      Option.getD_some, List.append_assoc, hdone', List.flatMap_append, List.append_assoc]
  · have hnone : made.filter (PluginCall.ofWorker j) = [] := by
      refine List.filter_eq_nil_iff.mpr fun c hc => ?_
      rw [ofWorker_of_ne (hmade c hc) hij]
      exact Bool.false_ne_true
    refine ⟨done, ?_⟩
    rw [hnone, List.append_nil, List.getElem?_set_ne hij]

/-- A call that is no worker's. -/
theorem Whole.concat (h : Whole calls turns) {c : PluginCall} (hc : ∀ i, c.ofWorker i = false) :
    Whole (calls ++ [c]) turns := by
  intro i
  obtain ⟨done, hdone⟩ := h i
  refine ⟨done, ?_⟩
  rw [List.filter_append, hdone, List.filter_singleton, hc i]
  simp

/-- A call that has no frame to show. -/
theorem filterMap_concat {f : PluginCall → Option Frame} {c : PluginCall} (hc : f c = none) :
    (calls ++ [c]).filterMap f = calls.filterMap f := by
  rw [List.filterMap_append, List.filterMap_cons_none hc]
  exact List.append_nil _

/-- `invoke` makes the calls of its turn, and `release` when it owes one. -/
theorem made_afterCall (i : Nat) (lane : Lane) (frame : Frame) (result : CallbackResult) :
    (afterCall lane frame result).made i = [.request i lane frame, .response i result] := by
  rw [afterCall]
  split
  · rfl
  · rename_i howned
    show exchange i (lane, frame, result) = _
    rw [exchange, if_neg howned]
    rfl

end Calls

/-! ## A worker that leaves its loop -/

section Leave

variable {t : CallbackStream} {i : Nat} {lane : Lane}

@[simp] theorem leave_workers (t : CallbackStream) (i : Nat) (lane : Lane) :
    (leave t i lane).workers = t.workers.set i ⟨lane, .stopped⟩ := by
  simp only [leave]
  split <;> rfl

@[simp] theorem leave_writerAlive (t : CallbackStream) (i : Nat) (lane : Lane) :
    (leave t i lane).writerAlive = t.writerAlive := by
  simp only [leave]
  split <;> rfl

/-- A queue stays as it is, or goes with its lane. -/
theorem leave_queue (t : CallbackStream) (i : Nat) (lane lane' : Lane) :
    (leave t i lane).queue lane' = t.queue lane' ∨
      (leave t i lane).queue lane' = [] ∧ laneClosed (leave t i lane) lane' = true := by
  simp only [leave]
  split
  · rename_i hclosed
    by_cases hlane : lane' = lane
    · subst hlane
      refine .inr ⟨?_, hclosed⟩
      exact Function.update_self ..
    · exact .inl (Function.update_of_ne hlane _ _)
  · exact .inl rfl

theorem leave_queue_le (t : CallbackStream) (i : Nat) (lane lane' : Lane) :
    ((leave t i lane).queue lane').length ≤ (t.queue lane').length := by
  rcases leave_queue t i lane lane' with hsame | ⟨hnil, -⟩
  · rw [hsame]
  · rw [hnil]
    exact Nat.zero_le _

/-- A lane with a worker at its loop is open. -/
theorem laneClosed_of_worker {worker : Worker} (hworker : t.workers[i]? = some worker)
    (hstate : worker.state ≠ .stopped) : laneClosed t worker.lane = false := by
  refine Bool.eq_false_iff.mpr fun hclosed => ?_
  have hall := List.all_eq_true.mp hclosed worker (List.mem_of_getElem? hworker)
  rcases of_decide_eq_true hall with hlane | hstopped
  · exact hlane rfl
  · exact hstate hstopped

/-- A closed lane stays closed while a worker elsewhere, or of another lane, moves. -/
theorem laneClosed_set {t' : CallbackStream} {worker worker' : Worker}
    (ht' : t'.workers = t.workers.set i worker') (hworker : t.workers[i]? = some worker)
    (hlane : worker'.lane = worker.lane) (hstate : worker.state ≠ .stopped)
    (h : laneClosed t lane = true) : laneClosed t' lane = true := by
  refine List.all_eq_true.mpr fun w hw => ?_
  rw [ht'] at hw
  obtain hmem | rfl := List.mem_or_eq_of_mem_set hw
  · exact List.all_eq_true.mp h w hmem
  · refine decide_eq_true (.inl fun heq => ?_)
    rw [← heq, hlane, laneClosed_of_worker hworker hstate] at h
    exact Bool.false_ne_true h

end Leave

/-! ## What every run keeps -/

section Runs

variable {route : Frame → Option Lane} {s s' : AbiPlugin} {e : Event}

/-- What was handed over to a lane was taken, is queued, or was dropped with the
    lane, which happens only after the reader. -/
def Conserved (s : AbiPlugin) (lane : Lane) : Prop :=
  ∃ dropped, s.accepted lane = s.taken lane ++ s.stream.queue lane ++ dropped ∧
    (dropped ≠ [] → s.readerAlive = false ∧ laneClosed s.stream lane = true)

/-- While it has a worker, nothing of a lane was dropped. -/
theorem Conserved.of_open {lane : Lane} (h : Conserved s lane)
    (hopen : laneClosed s.stream lane = false) :
    s.accepted lane = s.taken lane ++ s.stream.queue lane := by
  obtain ⟨dropped, haccepted, hdropped⟩ := h
  by_cases hnil : dropped = []
  · rw [haccepted, hnil, List.append_nil]
  · rw [(hdropped hnil).2] at hopen
    cases hopen

theorem conserved_of_eq {lane : Lane}
    (h : s.accepted lane = s.taken lane ++ s.stream.queue lane) : Conserved s lane :=
  ⟨[], by rw [List.append_nil]; exact h, fun hne => absurd rfl hne⟩

theorem sendersAlive_eq_false_iff {t : CallbackStream} :
    t.sendersAlive = false ↔ ∀ worker ∈ t.workers, worker.state = .stopped := by
  simp [CallbackStream.sendersAlive]

/-- What holds in every state. -/
structure Lawful (route : Frame → Option Lane) (s : AbiPlugin) : Prop where
  inTurn : InTurn s.stream.workers s.turns
  lanes : s.stream.workers.map Worker.lane = callbackIo.workers.map Worker.lane
  bounded : ∀ lane, (s.stream.queue lane).length ≤ lane.limit
  whole : Whole s.calls s.turns
  ended : ∃ before, s.calls = before ++ s.phase.calls ∧ ∀ c ∈ before, ∃ i, c.ofWorker i = true
  unheld : s.phase ≠ .live → s.held = false
  conserved : ∀ lane, Conserved s lane
  passed : ∀ lane, (s.taken lane).Perm
    (s.calls.filterMap (PluginCall.requested lane) ++ s.turns.filterMap (Turn.holding lane))
  drained : s.readerAlive = true → ∀ worker ∈ s.stream.workers, worker.state = .stopped →
    s.stream.writerAlive = false ∧ s.stream.queue worker.lane = []
  answered : s.readerAlive = true → (s.calls.filterMap PluginCall.answer).Perm
    (s.stream.arrived ++ s.turns.filterMap Turn.unsent)
  streamed : s.readerAlive = true → Reaches (ServiceCallback.step route) Free callbackIo s.stream

theorem opened_lawful : Lawful route opened where
  inTurn := by
    refine ⟨rfl, fun i worker turn hworker hturn => ?_⟩
    obtain rfl : turn = .waiting := List.eq_of_mem_replicate (List.mem_of_getElem? hturn)
    have hidle : ∀ worker ∈ callbackIo.workers, worker.state = .idle := by decide
    obtain ⟨lane, state⟩ := worker
    obtain rfl : state = .idle := hidle _ (List.mem_of_getElem? hworker)
    exact .idle lane
  lanes := rfl
  bounded _ := Nat.zero_le _
  whole i := by
    refine ⟨[], ?_⟩
    show [] = (((List.replicate 5 Turn.waiting)[i]?).getD .waiting).made i
    rw [List.getElem?_replicate]
    split <;> rfl
  ended := ⟨[], rfl, nofun⟩
  unheld h := absurd rfl h
  conserved _ := conserved_of_eq rfl
  passed _ := .refl _
  drained _ worker hworker hstate := by
    have hidle : ∀ worker ∈ callbackIo.workers, worker.state ≠ .stopped := by decide
    exact absurd hstate (hidle worker hworker)
  answered _ := .refl _
  streamed _ := .init

/-- A plugin in which a worker has not stopped is live. -/
theorem Lawful.live (hs : Lawful route s) {i : Nat} {worker : Worker}
    (hworker : s.stream.workers[i]? = some worker) (hstate : worker.state ≠ .stopped) :
    s.phase = .live := by
  by_contra hphase
  have hheld := hs.unheld hphase
  rw [AbiPlugin.held, Bool.or_eq_false_iff] at hheld
  exact hstate (sendersAlive_eq_false_iff.mp hheld.2 _ (List.mem_of_getElem? hworker))

/-- A worker in the middle of a turn is calling. -/
theorem Lawful.calling (hs : Lawful route s) {i : Nat} {turn : Turn}
    (hturn : s.turns[i]? = some turn) (hne : turn ≠ .waiting) :
    ∃ worker frame, s.stream.workers[i]? = some worker ∧ Matched worker turn ∧
      worker.state = .calling frame ∧ s.phase = .live := by
  obtain ⟨worker, hworker, hm⟩ := hs.inTurn.exists_worker hturn
  obtain ⟨frame, hframe⟩ := hm.calling_of_ne_waiting hne
  exact ⟨worker, frame, hworker, hm, hframe, hs.live hworker (by rw [hframe]; nofun)⟩

/-- While the library is used, there are no last calls. -/
theorem Lawful.ofWorker_of_live (hs : Lawful route s) (hphase : s.phase = .live) :
    ∀ c ∈ s.calls, ∃ i, c.ofWorker i = true := by
  obtain ⟨before, hcalls, hbefore⟩ := hs.ended
  rw [hphase] at hcalls
  rwa [hcalls, show Phase.live.calls = [] from rfl, List.append_nil]

/-- **A TURN GOES ON**: the worker's calls into the library leave the rest as it
    is. -/
theorem Lawful.advance (hs : Lawful route s) {i : Nat} {turn turn' : Turn}
    {made : List PluginCall} (hturn : s.turns[i]? = some turn) (hne : turn ≠ .waiting)
    (hm : ∀ worker, Matched worker turn → Matched worker turn')
    (hmade : ∀ c ∈ made, c.ofWorker i = true)
    (hnext : turn.made i ++ made = turn'.made i)
    (hholding : ∀ lane, made.filterMap (PluginCall.requested lane) ++ (turn'.holding lane).toList
      = (turn.holding lane).toList)
    (hunsent : made.filterMap PluginCall.answer ++ turn.unsent.toList = turn'.unsent.toList) :
    Lawful route (s.advance i turn' made) := by
  obtain ⟨worker, frame, hworker, hmatched, -, hlive⟩ := hs.calling hturn hne
  refine { hs with
    inTurn := hs.inTurn.setTurn hworker (hm worker hmatched)
    whole := hs.whole.advance hturn hmade ⟨[], hnext⟩
    ended := ?_
    passed := ?_
    answered := ?_ }
  · refine ⟨s.calls ++ made, ?_, fun c hc => ?_⟩
    · show _ = _ ++ s.phase.calls
      rw [hlive]
      exact (List.append_nil _).symm
    · obtain hc | hc := List.mem_append.mp hc
      · exact hs.ofWorker_of_live hlive c hc
      · exact ⟨i, hmade c hc⟩
  · intro lane
    refine List.perm_iff_count.mpr fun frame => ?_
    have hset := (ListUpdate.filterMap_set_perm (g := Turn.holding lane) hturn turn').count_eq frame
    have hold := (hs.passed lane).count_eq frame
    have hcount := congrArg (List.count frame) (hholding lane)
    show (s.taken lane).count frame = ((s.calls ++ made).filterMap _
      ++ (s.turns.set i turn').filterMap _).count frame
    simp only [List.filterMap_append, List.count_append] at hset hold hcount ⊢
    omega
  · intro halive
    refine List.perm_iff_count.mpr fun frame => ?_
    have hset := (ListUpdate.filterMap_set_perm (g := Turn.unsent) hturn turn').count_eq frame
    have hold := (hs.answered halive).count_eq frame
    have hcount := congrArg (List.count frame) hunsent
    show ((s.calls ++ made).filterMap _).count frame
      = (s.stream.arrived ++ (s.turns.set i turn').filterMap _).count frame
    simp only [List.filterMap_append, List.count_append] at hset hold hcount ⊢
    omega

/-- The stream moves by itself. -/
theorem Lawful.quiet (hs : Lawful route s) {e : ServiceCallback.Event} {stream : CallbackStream}
    (hstep : ServiceCallback.step route s.stream e = some stream)
    (h : Quiet s.stream stream) : Lawful route (s.setStream stream) where
  inTurn := by
    show InTurn stream.workers s.turns
    rw [h.workers]
    exact hs.inTurn
  lanes := (congrArg _ h.workers).trans hs.lanes
  bounded lane := by
    show (stream.queue lane).length ≤ lane.limit
    rw [h.queue]
    exact hs.bounded lane
  whole := hs.whole
  ended := hs.ended
  unheld hphase := by
    show (s.connected || stream.sendersAlive) = false
    rw [CallbackStream.sendersAlive, h.workers]
    exact hs.unheld hphase
  conserved lane := by
    rw [Conserved]
    show ∃ dropped, s.accepted lane = s.taken lane ++ stream.queue lane ++ dropped ∧
      (dropped ≠ [] → s.readerAlive = false ∧ laneClosed stream lane = true)
    rw [h.queue, laneClosed, h.workers]
    exact hs.conserved lane
  passed := hs.passed
  drained halive worker hworker hstate := by
    obtain ⟨hwriter, hqueue⟩ := hs.drained halive worker (h.workers ▸ hworker) hstate
    refine ⟨Bool.eq_false_iff.mpr fun hwriter' => ?_, by rw [← hqueue]; exact congrFun h.queue _⟩
    rw [h.writer hwriter'] at hwriter
    exact nomatch hwriter
  answered halive := by
    show (s.calls.filterMap PluginCall.answer).Perm (stream.arrived ++ _)
    rw [h.arrived]
    exact hs.answered halive
  streamed halive := .step e (hs.streamed halive) trivial hstep

/-- The writer hands over a frame or loses it. -/
theorem Lawful.flushed (hs : Lawful route s) {stream : CallbackStream}
    (hwriter : s.stream.writerAlive = true)
    (hstep : ServiceCallback.step route s.stream .flush = some stream)
    (h : Flushed s.stream stream) : Lawful route (s.flushed stream) where
  inTurn := by
    show InTurn stream.workers s.turns
    rw [h.workers]
    exact hs.inTurn
  lanes := (congrArg _ h.workers).trans hs.lanes
  bounded lane := (h.bounded lane).trans (max_le (hs.bounded lane) (Nat.le_refl _))
  whole := hs.whole
  ended := hs.ended
  unheld hphase := by
    show (s.connected || stream.sendersAlive) = false
    rw [CallbackStream.sendersAlive, h.workers]
    exact hs.unheld hphase
  conserved lane := by
    by_cases hsame : stream.queue lane = s.stream.queue lane
    · rw [Conserved]
      show ∃ dropped, s.accepted lane ++ (stream.queue lane).drop (s.stream.queue lane).length
          = s.taken lane ++ stream.queue lane ++ dropped ∧
        (dropped ≠ [] → s.readerAlive = false ∧ laneClosed stream lane = true)
      rw [hsame, List.drop_length, List.append_nil, laneClosed, h.workers]
      exact hs.conserved lane
    · refine conserved_of_eq ?_
      show s.accepted lane ++ (stream.queue lane).drop (s.stream.queue lane).length
        = s.taken lane ++ stream.queue lane
      rw [(hs.conserved lane).of_open (h.opened lane hsame), List.append_assoc,
        List.prefix_iff_eq_append.mp (h.queue lane)]
  passed := hs.passed
  drained halive worker hworker hstate := by
    obtain ⟨hclosed, -⟩ := hs.drained halive worker (h.workers ▸ hworker) hstate
    exact absurd hwriter (by rw [hclosed]; exact Bool.false_ne_true)
  answered halive := by
    show (s.calls.filterMap PluginCall.answer).Perm (stream.arrived ++ _)
    rw [h.arrived]
    exact hs.answered halive
  streamed halive := .step .flush (hs.streamed halive) trivial hstep

/-- A worker takes the first frame of its lane. -/
theorem Lawful.receive (hs : Lawful route s) {i : Nat} {lane : Lane} {frame : Frame}
    {frames : List Frame} (hworker : s.stream.workers[i]? = some ⟨lane, .idle⟩)
    (hqueue : s.stream.queue lane = frame :: frames) :
    Lawful route { s with
      stream := (s.stream.setQueue lane frames).setWorker i ⟨lane, .calling frame⟩
      turns := s.turns.set i (.received lane frame)
      taken := Function.update s.taken lane (s.taken lane ++ [frame]) } := by
  obtain ⟨turn, hturn, hm⟩ := hs.inTurn.exists_turn hworker
  obtain rfl : turn = .waiting := by
    cases hm
    rfl
  have hlive := hs.live hworker nofun
  refine { hs with
    inTurn := hs.inTurn.set (.received lane frame)
    lanes := ?_, bounded := ?_, whole := ?_, conserved := ?_, passed := ?_, drained := ?_
    unheld := fun hphase => absurd hlive hphase
    answered := ?_, streamed := ?_ }
  · rw [← hs.lanes]
    exact map_lane_set hworker rfl
  · intro lane'
    show (Function.update s.stream.queue lane frames lane').length ≤ _
    by_cases hlane : lane' = lane
    · subst hlane
      rw [Function.update_self]
      have hle := hs.bounded lane'
      rw [hqueue, List.length_cons] at hle
      omega
    · rw [Function.update_of_ne hlane]
      exact hs.bounded lane'
  · have h : Whole (s.calls ++ []) (s.turns.set i (.received lane frame)) :=
      hs.whole.advance hturn nofun ⟨[], rfl⟩
    rwa [List.append_nil] at h
  · intro lane'
    by_cases hlane : lane' = lane
    · subst hlane
      refine conserved_of_eq ?_
      show s.accepted lane' = Function.update s.taken lane' (s.taken lane' ++ [frame]) lane'
        ++ Function.update s.stream.queue lane' frames lane'
      rw [Function.update_self, Function.update_self,
        (hs.conserved lane').of_open (laneClosed_of_worker hworker nofun), hqueue,
        List.append_assoc, List.singleton_append]
    · obtain ⟨dropped, haccepted, hdropped⟩ := hs.conserved lane'
      refine ⟨dropped, ?_, fun hne => ?_⟩
      · show s.accepted lane' = Function.update s.taken lane (s.taken lane ++ [frame]) lane'
          ++ Function.update s.stream.queue lane frames lane' ++ dropped
        rw [Function.update_of_ne hlane, Function.update_of_ne hlane]
        exact haccepted
      · obtain ⟨hdead, hclosed⟩ := hdropped hne
        exact ⟨hdead, laneClosed_set rfl hworker rfl nofun hclosed⟩
  · intro lane'
    refine List.perm_iff_count.mpr fun other => ?_
    have hset := (ListUpdate.filterMap_set_perm (g := Turn.holding lane') hturn
      (.received lane frame)).count_eq other
    have hold := (hs.passed lane').count_eq other
    show (Function.update s.taken lane (s.taken lane ++ [frame]) lane').count other
      = (s.calls.filterMap _ ++ (s.turns.set i (.received lane frame)).filterMap _).count other
    simp only [List.count_append, Turn.holding] at hset hold ⊢
    by_cases hlane : lane' = lane
    · subst hlane
      rw [Function.update_self, List.count_append]
      simp only [if_true, Option.toList] at hset
      simp only [List.count_nil] at hset
      omega
    · rw [Function.update_of_ne hlane]
      simp only [if_neg (Ne.symm hlane), Option.toList, List.count_nil] at hset
      omega
  · intro halive worker hmem hstate
    have hmem : worker ∈ s.stream.workers.set i ⟨lane, .calling frame⟩ := hmem
    obtain hmem | rfl := List.mem_or_eq_of_mem_set hmem
    · obtain ⟨hwriter, hnone⟩ := hs.drained halive worker hmem hstate
      refine ⟨hwriter, ?_⟩
      show Function.update s.stream.queue lane frames worker.lane = []
      have hne : worker.lane ≠ lane := by
        intro hlane
        rw [hlane, hqueue] at hnone
        exact nomatch hnone
      rw [Function.update_of_ne hne]
      exact hnone
    · exact nomatch hstate
  · intro halive
    refine List.perm_iff_count.mpr fun other => ?_
    have hset := (ListUpdate.filterMap_set_perm (g := Turn.unsent) hturn
      (.received lane frame)).count_eq other
    have hold := (hs.answered halive).count_eq other
    show (s.calls.filterMap _).count other
      = (s.stream.arrived ++ (s.turns.set i (.received lane frame)).filterMap _).count other
    simp only [List.count_append, Turn.unsent, Option.toList, List.count_nil] at hset hold ⊢
    omega
  · intro halive
    refine .step (.receive i) (hs.streamed halive) trivial ?_
    simp only [ServiceCallback.step, hworker, hqueue]

/-- The frame of an answer has been passed on. -/
theorem Lawful.passed_sent (hs : Lawful route s) {i : Nat} {lane : Lane} {frame : Frame}
    {result : CallbackResult} (hturn : s.turns[i]? = some (.finished lane frame result))
    (lane' : Lane) : (s.taken lane').Perm ((s.calls ++ []).filterMap (PluginCall.requested lane')
      ++ (s.turns.set i .waiting).filterMap (Turn.holding lane')) := by
  refine List.perm_iff_count.mpr fun other => ?_
  have hset := (ListUpdate.filterMap_set_perm (g := Turn.holding lane') hturn
    .waiting).count_eq other
  have hold := (hs.passed lane').count_eq other
  simp only [List.append_nil, List.count_append, Turn.holding, Option.toList] at hset hold ⊢
  omega

/-- A worker sends its answer. -/
theorem Lawful.sent (hs : Lawful route s) {i : Nat} {lane lane' : Lane} {frame frame' : Frame}
    {result : CallbackResult} (hturn : s.turns[i]? = some (.finished lane frame result))
    (hworker : s.stream.workers[i]? = some ⟨lane', .calling frame'⟩) :
    Lawful route ((s.setStream { s.stream.setWorker i ⟨lane', .idle⟩ with
      responses := s.stream.responses ++ [invoke result]
      arrived := s.stream.arrived ++ [invoke result] }).advance i .waiting []) := by
  have hlive := hs.live hworker nofun
  refine { hs with
    inTurn := hs.inTurn.set (.idle lane')
    lanes := ?_, bounded := hs.bounded, whole := ?_, ended := ?_, passed := ?_, drained := ?_
    unheld := fun hphase => absurd hlive hphase
    conserved := ?_, answered := ?_, streamed := ?_ }
  · rw [← hs.lanes]
    exact map_lane_set hworker rfl
  · exact hs.whole.advance hturn nofun ⟨[(lane, frame, result)], by
      simp [Turn.made]⟩
  · obtain ⟨before, hcalls, hbefore⟩ := hs.ended
    exact ⟨before, (List.append_nil _).trans hcalls, hbefore⟩
  · intro lane
    obtain ⟨dropped, haccepted, hdropped⟩ := hs.conserved lane
    refine ⟨dropped, haccepted, fun hne => ?_⟩
    obtain ⟨hdead, hclosed⟩ := hdropped hne
    exact ⟨hdead, laneClosed_set rfl hworker rfl nofun hclosed⟩
  · exact hs.passed_sent hturn
  · intro halive worker hmem hstate
    have hmem : worker ∈ s.stream.workers.set i ⟨lane', .idle⟩ := hmem
    obtain hmem | rfl := List.mem_or_eq_of_mem_set hmem
    · exact hs.drained halive worker hmem hstate
    · exact nomatch hstate
  · intro halive
    refine List.perm_iff_count.mpr fun other => ?_
    have hset := (ListUpdate.filterMap_set_perm (g := Turn.unsent) hturn .waiting).count_eq other
    have hold := (hs.answered halive).count_eq other
    show ((s.calls ++ []).filterMap _).count other = (s.stream.arrived ++ [invoke result]
      ++ (s.turns.set i .waiting).filterMap _).count other
    simp only [List.append_nil, List.count_append, Turn.unsent, Option.toList] at hset hold ⊢
    omega
  · intro halive
    refine .step (.respond i result) (hs.streamed halive) trivial ?_
    simp only [ServiceCallback.step, hworker]
    rfl

/-- A worker whose answer nobody reads leaves its loop. -/
theorem Lawful.lost (hs : Lawful route s) {i : Nat} {lane : Lane} {frame : Frame}
    {result : CallbackResult} (hturn : s.turns[i]? = some (.finished lane frame result))
    (halive : s.readerAlive = false) :
    Lawful route ((s.setStream (leave s.stream i lane)).advance i .waiting []) := by
  obtain ⟨worker, frame', hworker, hm, hstate, hlive⟩ := hs.calling hturn nofun
  have hlane : worker.lane = lane := by
    cases hm
    rfl
  have hdead : ∀ {P : Prop}, s.readerAlive = true → P := fun h =>
    absurd (halive.symm.trans h) Bool.false_ne_true
  refine { hs with
    inTurn := ?_, lanes := ?_, bounded := ?_, whole := ?_, ended := ?_,
    conserved := ?_, passed := ?_
    unheld := fun hphase => absurd hlive hphase
    drained := hdead
    answered := hdead
    streamed := hdead }
  · show InTurn (leave s.stream i lane).workers (s.turns.set i .waiting)
    rw [leave_workers]
    exact hs.inTurn.set (.stopped lane)
  · show (leave s.stream i lane).workers.map Worker.lane = _
    rw [leave_workers, ← hs.lanes]
    exact map_lane_set hworker hlane.symm
  · intro lane'
    exact (leave_queue_le s.stream i lane lane').trans (hs.bounded lane')
  · exact hs.whole.advance hturn nofun ⟨[(lane, frame, result)], by
      simp [Turn.made]⟩
  · obtain ⟨before, hcalls, hbefore⟩ := hs.ended
    exact ⟨before, (List.append_nil _).trans hcalls, hbefore⟩
  · intro lane'
    rcases leave_queue s.stream i lane lane' with hsame | ⟨hnil, hclosed⟩
    · obtain ⟨dropped, haccepted, hdropped⟩ := hs.conserved lane'
      refine ⟨dropped, ?_, fun hne => ⟨halive, ?_⟩⟩
      · show s.accepted lane' = s.taken lane' ++ (leave s.stream i lane).queue lane' ++ dropped
        rw [hsame]
        exact haccepted
      · show laneClosed (leave s.stream i lane) lane' = true
        have hcalling : worker.state ≠ .stopped := by
          rw [hstate]
          rintro ⟨⟩
        exact laneClosed_set (leave_workers ..) hworker hlane.symm hcalling (hdropped hne).2
    · -- what was queued goes with the lane
      obtain ⟨dropped, haccepted, -⟩ := hs.conserved lane'
      refine ⟨s.stream.queue lane' ++ dropped, ?_, fun _ => ⟨halive, hclosed⟩⟩
      show s.accepted lane' = s.taken lane' ++ (leave s.stream i lane).queue lane' ++ _
      rw [hnil, List.append_nil, haccepted, List.append_assoc]
  · exact hs.passed_sent hturn

/-- A worker whose lane has ended stops. -/
theorem Lawful.stopped (hs : Lawful route s) {i : Nat} {lane : Lane}
    (hworker : s.stream.workers[i]? = some ⟨lane, .idle⟩)
    (hwriter : s.stream.writerAlive = false) (hqueue : s.stream.queue lane = []) :
    Lawful route (s.setStream (s.stream.setWorker i ⟨lane, .stopped⟩)) := by
  obtain ⟨turn, hturn, hm⟩ := hs.inTurn.exists_turn hworker
  obtain rfl : turn = .waiting := by
    cases hm
    rfl
  have hlive := hs.live hworker nofun
  refine { hs with
    inTurn := hs.inTurn.setWorker hturn (.stopped lane)
    lanes := ?_, conserved := ?_, drained := ?_
    unheld := fun hphase => absurd hlive hphase
    streamed := ?_ }
  · rw [← hs.lanes]
    exact map_lane_set hworker rfl
  · intro lane'
    obtain ⟨dropped, haccepted, hdropped⟩ := hs.conserved lane'
    refine ⟨dropped, haccepted, fun hne => ?_⟩
    obtain ⟨hdead, hclosed⟩ := hdropped hne
    exact ⟨hdead, laneClosed_set rfl hworker rfl nofun hclosed⟩
  · intro halive worker hmem hstate
    have hmem : worker ∈ s.stream.workers.set i ⟨lane, .stopped⟩ := hmem
    obtain hmem | rfl := List.mem_or_eq_of_mem_set hmem
    · exact hs.drained halive worker hmem hstate
    · exact ⟨hwriter, hqueue⟩
  · intro halive
    refine .step (.stop i) (hs.streamed halive) trivial ?_
    simp only [ServiceCallback.step, hworker]
    rw [if_pos ⟨hwriter, hqueue⟩]
    rfl

/-- **EVERY STEP** keeps the law. -/
theorem Lawful.step (hs : Lawful route s) (h : step route s e = some s') : Lawful route s' := by
  cases step_move h with
  | quiet _ e' stream _ hstep hquiet => exact hs.quiet hstep hquiet
  | flush stream hwriter hstep hflushed => exact hs.flushed hwriter hstep hflushed
  | dropReader =>
      refine { hs with
        conserved := fun lane => ?_, drained := nofun, answered := nofun, streamed := nofun }
      obtain ⟨dropped, haccepted, hdropped⟩ := hs.conserved lane
      exact ⟨dropped, haccepted, fun hne => ⟨rfl, (hdropped hne).2⟩⟩
  | dropConnection =>
      refine { hs with unheld := fun hphase => ?_ }
      have hheld := hs.unheld hphase
      rw [AbiPlugin.held, Bool.or_eq_false_iff] at hheld
      exact hheld.2
  | receive i lane frame frames hworker hqueue => exact hs.receive hworker hqueue
  | request i lane frame hturn =>
      refine hs.advance hturn nofun ?_ (by simp [PluginCall.ofWorker]) rfl ?_ rfl
      · rintro worker ⟨⟩
        exact .calling lane frame
      · intro lane'
        by_cases hlane : lane = lane' <;> simp [PluginCall.requested, Turn.holding, hlane]
  | respond i lane frame result hturn =>
      refine hs.advance hturn nofun ?_ (by simp [PluginCall.ofWorker]) ?_ ?_ ?_
      · rintro worker ⟨⟩
        exact matched_afterCall lane frame result
      · exact (made_afterCall i lane frame result).symm
      · intro lane'
        rw [afterCall]
        split <;> rfl
      · rw [afterCall]
        split <;> rfl
  | release i lane frame result hturn =>
      obtain ⟨_, -, hm⟩ := hs.inTurn.exists_worker hturn
      cases hm with
      | returned _ _ _ howned =>
          refine hs.advance hturn nofun ?_ (by simp [PluginCall.ofWorker]) ?_ (fun _ => rfl) rfl
          · rintro worker ⟨⟩
            exact .finished lane frame result
          · show _ = exchange i (lane, frame, result)
            rw [exchange, if_pos howned]
            rfl
  | send i lane lane' frame frame' result hturn _ hworker => exact hs.sent hturn hworker
  | lost i lane frame result hturn halive => exact hs.lost hturn halive
  | stop i lane hworker hwriter hqueue => exact hs.stopped hworker hwriter hqueue
  | close hheld hphase =>
      refine { hs with
        whole := hs.whole.concat fun _ => rfl
        ended := ⟨s.calls, rfl, hs.ofWorker_of_live hphase⟩
        unheld := fun _ => hheld
        passed := fun lane => ?_, answered := fun halive => ?_ }
      · show (s.taken lane).Perm ((s.calls ++ [PluginCall.close]).filterMap _ ++ _)
        rw [filterMap_concat rfl]
        exact hs.passed lane
      · show ((s.calls ++ [PluginCall.close]).filterMap _).Perm _
        rw [filterMap_concat rfl]
        exact hs.answered halive
  | unload hphase =>
      obtain ⟨before, hcalls, hbefore⟩ := hs.ended
      refine { hs with
        whole := hs.whole.concat fun _ => rfl
        ended := ⟨before, ?_, hbefore⟩
        unheld := fun _ => hs.unheld (by rw [hphase]; nofun)
        passed := fun lane => ?_, answered := fun halive => ?_ }
      · show s.calls ++ [.unload] = _
        rw [hcalls, hphase, List.append_assoc]
        rfl
      · show (s.taken lane).Perm ((s.calls ++ [PluginCall.unload]).filterMap _ ++ _)
        rw [filterMap_concat rfl]
        exact hs.passed lane
      · show ((s.calls ++ [PluginCall.unload]).filterMap _).Perm _
        rw [filterMap_concat rfl]
        exact hs.answered halive

theorem reaches_lawful (h : Reaches (step route) Free opened s) : Lawful route s :=
  h.invariant opened_lawful fun _ _ _ hs _ hstep => hs.step hstep

/-! ## The law of a lifetime -/

/-- Stopped workers are in no turn. -/
theorem Lawful.waiting (hs : Lawful route s) (halive : s.stream.sendersAlive = false) :
    ∀ turn ∈ s.turns, turn = .waiting := by
  intro turn hmem
  obtain ⟨i, hi⟩ := List.mem_iff_getElem?.mp hmem
  obtain ⟨worker, hworker, hm⟩ := hs.inTurn.exists_worker hi
  have hstopped := sendersAlive_eq_false_iff.mp halive worker (List.mem_of_getElem? hworker)
  cases hm with
  | idle lane => exact nomatch hstopped
  | stopped lane => rfl
  | received _ _ | calling _ _ | returned _ _ _ _ | finished _ _ _ => exact nomatch hstopped

/-- Every lane has a worker. -/
theorem Lawful.exists_worker (hs : Lawful route s) (lane : Lane) :
    ∃ worker ∈ s.stream.workers, worker.lane = lane := by
  have hlane : lane ∈ callbackIo.workers.map Worker.lane := by
    cases lane <;> decide
  rw [← hs.lanes] at hlane
  exact List.mem_map.mp hlane

/-- What is left of a turn. -/
def Turn.left : Turn → Nat
  | .waiting => 0
  | .received _ _ => 4
  | .calling _ _ => 3
  | .returned _ _ _ => 2
  | .finished _ _ _ => 1

/-- A worker has to leave its loop. -/
def Worker.left (worker : Worker) : Nat := if worker.state = .stopped then 0 else 1

/-- What is left to do with the library. -/
def Phase.left : Phase → Nat
  | .live => 2
  | .closed => 1
  | .unloaded => 0

/-- How many moves there can be before the unloading. -/
def AbiPlugin.left (s : AbiPlugin) : Nat :=
  5 * ((s.stream.queue .work).length + (s.stream.queue .management).length)
    + (s.turns.map Turn.left).sum + (s.stream.workers.map Worker.left).sum + s.phase.left

/-- The writer and the connection are gone. -/
structure Ending (route : Frame → Option Lane) (s : AbiPlugin) : Prop where
  lawful : Lawful route s
  writer : s.stream.writerAlive = false
  connection : s.connected = false
  loaded : s.phase ≠ .unloaded

/-- A worker's turn goes on. -/
theorem left_advance {i : Nat} {turn turn' : Turn} (made : List PluginCall)
    (hturn : s.turns[i]? = some turn) (hlt : turn'.left < turn.left) :
    (s.advance i turn' made).left < s.left := by
  have hsum := ListUpdate.sum_map_set (f := Turn.left) hturn turn'
  rw [AbiPlugin.left, AbiPlugin.left]
  show 5 * ((s.stream.queue .work).length + (s.stream.queue .management).length)
    + ((s.turns.set i turn').map Turn.left).sum + (s.stream.workers.map Worker.left).sum
    + s.phase.left < _
  omega

/-- A worker leaves its loop. -/
theorem workers_set {i : Nat} {worker : Worker} (hworker : s.stream.workers[i]? = some worker)
    (worker' : Worker) :
    ((s.stream.workers.set i worker').map Worker.left).sum + Worker.left worker
      = (s.stream.workers.map Worker.left).sum + Worker.left worker' :=
  ListUpdate.sum_map_set hworker worker'

/-- **EVERY MOVE** of an ending plugin brings it closer to its end. -/
theorem Ending.closer (hs : Ending route s) (h : step route s e = some s')
    (hgoal : unloads e = false) :
    Ending route s' ∧ s'.left ≤ s.left ∧ (own e = true → s'.left < s.left) := by
  have hlawful := hs.lawful.step h
  cases step_move h with
  | quiet _ e' stream hown hstep hquiet =>
      refine ⟨⟨hlawful, ?_, hs.connection, hs.loaded⟩, ?_, fun h => ?_⟩
      · refine Bool.eq_false_iff.mpr fun hwriter => ?_
        have hwriter := hquiet.writer hwriter
        rw [hs.writer] at hwriter
        exact nomatch hwriter
      · show 5 * ((stream.queue .work).length + (stream.queue .management).length) + _
          + (stream.workers.map Worker.left).sum + _ ≤ _
        rw [hquiet.queue, hquiet.workers]
        exact Nat.le_refl _
      · rw [hown] at h
        exact nomatch h
  | flush stream hwriter _ _ =>
      rw [hs.writer] at hwriter
      exact nomatch hwriter
  | dropReader => exact ⟨⟨hlawful, hs.writer, hs.connection, hs.loaded⟩, Nat.le_refl _, nofun⟩
  | dropConnection => exact ⟨⟨hlawful, hs.writer, rfl, hs.loaded⟩, Nat.le_refl _, nofun⟩
  | receive i lane frame frames hworker hqueue =>
      obtain ⟨turn, hturn, hm⟩ := hs.lawful.inTurn.exists_turn hworker
      have hturns := ListUpdate.sum_map_set (f := Turn.left) hturn (.received lane frame)
      have hworkers : _ + 1 = _ + 1 := workers_set hworker ⟨lane, .calling frame⟩
      have hlt : 5 * ((Function.update s.stream.queue lane frames .work).length
            + (Function.update s.stream.queue lane frames .management).length)
          + ((s.turns.set i (.received lane frame)).map Turn.left).sum
          + ((s.stream.workers.set i ⟨lane, .calling frame⟩).map Worker.left).sum
          + s.phase.left < s.left := by
        have hidle : turn.left = 0 := by
          cases hm
          rfl
        rw [hidle, show Turn.left (.received lane frame) = 4 from rfl] at hturns
        rw [AbiPlugin.left]
        cases lane <;>
          rw [Function.update_self, Function.update_of_ne (by decide), hqueue, List.length_cons] <;>
          omega
      exact ⟨⟨hlawful, hs.writer, hs.connection, hs.loaded⟩, Nat.le_of_lt hlt, fun _ => hlt⟩
  | request i lane frame hturn =>
      have hlt := left_advance (s := s) [.request i lane frame] hturn
        (show Turn.left (.calling lane frame) < 4 from Nat.lt_succ_self 3)
      exact ⟨⟨hlawful, hs.writer, hs.connection, hs.loaded⟩, Nat.le_of_lt hlt, fun _ => hlt⟩
  | respond i lane frame result hturn =>
      have hnext : (afterCall lane frame result).left < 3 := by
        rw [afterCall]
        split
        · exact Nat.lt_succ_self 2
        · exact Nat.lt_of_sub_eq_succ rfl
      have hlt := left_advance (s := s) [.response i result] hturn hnext
      exact ⟨⟨hlawful, hs.writer, hs.connection, hs.loaded⟩, Nat.le_of_lt hlt, fun _ => hlt⟩
  | release i lane frame result hturn =>
      have hlt := left_advance (s := s) [.release i result.payload] hturn
        (show Turn.left (.finished lane frame result) < 2 from Nat.lt_succ_self 1)
      exact ⟨⟨hlawful, hs.writer, hs.connection, hs.loaded⟩, Nat.le_of_lt hlt, fun _ => hlt⟩
  | send i lane lane' frame frame' result hturn _ hworker =>
      have hturns : _ + 1 = _ + 0 := ListUpdate.sum_map_set (f := Turn.left) hturn .waiting
      have hworkers : _ + 1 = _ + 1 := workers_set hworker ⟨lane', .idle⟩
      have hlt : 5 * ((s.stream.queue .work).length + (s.stream.queue .management).length)
          + ((s.turns.set i .waiting).map Turn.left).sum
          + ((s.stream.workers.set i ⟨lane', .idle⟩).map Worker.left).sum + s.phase.left
          < s.left := by
        rw [AbiPlugin.left]
        omega
      exact ⟨⟨hlawful, hs.writer, hs.connection, hs.loaded⟩, Nat.le_of_lt hlt, fun _ => hlt⟩
  | lost i lane frame result hturn _ =>
      obtain ⟨worker, hworker, -⟩ := hs.lawful.inTurn.exists_worker hturn
      have hturns : _ + 1 = _ + 0 := ListUpdate.sum_map_set (f := Turn.left) hturn .waiting
      have hworkers : _ + Worker.left worker = _ + 0 := workers_set hworker ⟨lane, .stopped⟩
      have hlt : 5 * (((leave s.stream i lane).queue .work).length
            + ((leave s.stream i lane).queue .management).length)
          + ((s.turns.set i .waiting).map Turn.left).sum
          + ((leave s.stream i lane).workers.map Worker.left).sum + s.phase.left
          < s.left := by
        have hwork := leave_queue_le s.stream i lane .work
        have hmanagement := leave_queue_le s.stream i lane .management
        rw [AbiPlugin.left, leave_workers]
        omega
      have hwriter : (leave s.stream i lane).writerAlive = false := by
        rw [leave_writerAlive]
        exact hs.writer
      exact ⟨⟨hlawful, hwriter, hs.connection, hs.loaded⟩, Nat.le_of_lt hlt, fun _ => hlt⟩
  | stop i lane hworker _ _ =>
      have hworkers : _ + 1 = _ + 0 := workers_set hworker ⟨lane, .stopped⟩
      have hlt : 5 * ((s.stream.queue .work).length + (s.stream.queue .management).length)
          + (s.turns.map Turn.left).sum
          + ((s.stream.workers.set i ⟨lane, .stopped⟩).map Worker.left).sum + s.phase.left
          < s.left := by
        rw [AbiPlugin.left]
        omega
      exact ⟨⟨hlawful, hs.writer, hs.connection, hs.loaded⟩, Nat.le_of_lt hlt, fun _ => hlt⟩
  | close _ hphase =>
      have hlt : AbiPlugin.left { s with phase := .closed, calls := s.calls ++ [.close] }
          < s.left := by
        rw [AbiPlugin.left, AbiPlugin.left, hphase]
        exact Nat.lt_succ_self _
      exact ⟨⟨hlawful, hs.writer, hs.connection, nofun⟩, Nat.le_of_lt hlt, fun _ => hlt⟩
  | unload hphase => exact nomatch hgoal

/-- An ending plugin can always move on. -/
theorem Ending.exists_move (hs : Ending route s) :
    ∃ e s', own e = true ∧ step route s e = some s' := by
  cases hphase : s.phase with
  | unloaded => exact absurd hphase hs.loaded
  | closed => exact ⟨.unload, _, rfl, if_pos hphase⟩
  | live =>
      cases halive : s.stream.sendersAlive with
      | false =>
          have hheld : s.held = false := by
            rw [AbiPlugin.held, hs.connection, halive]
            rfl
          exact ⟨.close, _, rfl, if_pos ⟨hheld, hphase⟩⟩
      | true =>
          obtain ⟨worker, hmem, hstate⟩ := List.any_eq_true.mp halive
          obtain ⟨i, hworker⟩ := List.mem_iff_getElem?.mp hmem
          obtain ⟨turn, hturn, hm⟩ := hs.lawful.inTurn.exists_turn hworker
          -- the worker in turn has a next move of its own
          cases hm with
          | stopped lane => exact absurd rfl (of_decide_eq_true hstate)
          | idle lane =>
              cases hqueue : s.stream.queue lane with
              | nil =>
                  refine ⟨.stop i, s.setStream (s.stream.setWorker i ⟨lane, .stopped⟩), rfl, ?_⟩
                  simp only [step, ServiceCallback.step, hworker]
                  rw [if_pos ⟨hs.writer, hqueue⟩]
                  rfl
              | cons frame frames =>
                  exact ⟨.receive i, _, rfl, by
                    simp only [step, ServiceCallback.step, hworker, hqueue]
                    rfl⟩
          | received lane frame =>
              exact ⟨.request i, _, rfl, by simp only [step, hturn]; rfl⟩
          | calling lane frame =>
              exact ⟨.respond i ⟨0, 0, none⟩, _, rfl, by simp only [step, hturn]; rfl⟩
          | returned lane frame result howned =>
              exact ⟨.release i, _, rfl, by simp only [step, hturn]; rfl⟩
          | finished lane frame result =>
              refine ⟨.send i, ?_⟩
              simp only [step, hturn, ServiceCallback.step, hworker]
              cases s.readerAlive with
              | true => exact ⟨_, rfl, rfl⟩
              | false => exact ⟨_, rfl, rfl⟩

/-- The lanes and the workers leave only so much to do. -/
theorem Lawful.left_le (hs : Lawful route s) : s.left ≤ 347 := by
  have hworkers : s.stream.workers.length = 5 := by
    have hlength := congrArg List.length hs.lanes
    rwa [List.length_map] at hlength
  have hturn : (s.turns.map Turn.left).sum ≤ 4 * 5 := by
    have hsum := List.sum_le_card_nsmul (s.turns.map Turn.left) 4 fun n hn => by
      obtain ⟨turn, -, rfl⟩ := List.mem_map.mp hn
      cases turn <;> simp [Turn.left]
    rw [List.length_map, hs.inTurn.length, hworkers] at hsum
    exact hsum
  have hworker : (s.stream.workers.map Worker.left).sum ≤ 5 := by
    have hsum := List.sum_le_card_nsmul (s.stream.workers.map Worker.left) 1 fun n hn => by
      obtain ⟨worker, -, rfl⟩ := List.mem_map.mp hn
      rw [Worker.left]
      split <;> decide
    rw [List.length_map, hworkers] at hsum
    exact hsum
  have hwork : _ ≤ 56 := hs.bounded .work
  have hmanagement : _ ≤ 8 := hs.bounded .management
  have hphase : s.phase.left ≤ 2 := by cases s.phase <;> decide
  rw [AbiPlugin.left]
  omega

/-- Before the unloading there is something left to do. -/
theorem left_pos (hphase : s.phase ≠ .unloaded) : 0 < s.left := by
  have hpos : 0 < s.phase.left := by
    cases hwas : s.phase with
    | live => exact Nat.succ_pos 1
    | closed => exact Nat.succ_pos 0
    | unloaded => exact absurd hwas hphase
  rw [AbiPlugin.left]
  omega

/-- **THE END COMES**: once the writer and the connection are gone, the workers
    empty or drop their lanes and stop, whoever reads, and after at most 346 of
    their moves the closed plugin is unloaded. -/
theorem lifetime_ends (h : Reaches (step route) Free opened s)
    (hwriter : s.stream.writerAlive = false) (hconnected : s.connected = false)
    (hphase : s.phase ≠ .unloaded) :
    LeadsTo (step route) own (fun _ => false) unloads 346 s := by
  have hs := reaches_lawful h
  refine leadsTo_of_rank (Ending route) (fun s => s.left - 1) ?_ ?_
    ⟨hs, hwriter, hconnected, hphase⟩ (Nat.sub_le_sub_right hs.left_le 1)
  · intro s hs
    obtain ⟨e, s', hown, hstep⟩ := hs.exists_move
    exact ⟨e, s', hown, rfl, hstep⟩
  · intro s e s' hs hstep hgoal
    obtain ⟨hs', hle, hlt⟩ := hs.closer hstep hgoal
    have hpos := left_pos hs'.loaded
    refine ⟨rfl, hs', Nat.sub_le_sub_right hle 1, fun hown => ?_⟩
    have := hlt hown
    omega

/-- A plugin that is dropped with a request on its way. -/
theorem lifetime_ends_dropped :
    ∃ s, s.stream.queue .work = [[9]] ∧
      LeadsTo (step fun _ => some .work) own (fun _ => false) unloads 346 s := by
  have hrun : (run (step fun _ => some .work) Free opened
      [.write [9], .flush, .closeWriter, .dropReader, .dropConnection]).isSome = true := by decide
  have hreach := reaches_getD (d := opened) hrun
  exact ⟨_, by decide, lifetime_ends hreach (by decide) (by decide) (by decide)⟩

end Runs

end ServiceLifetime
