import MutsukiServiceHost.ListUpdateProofs
import MutsukiServiceHost.ServiceServerProofs

/-! # Who is who on a connection — requests, tasks and replies

    Every REQUEST frame read completely is logged once; it becomes one task,
    or the loop itself turns it away, or the loop ends on it.  This file proves
    that bookkeeping for every run: tasks and log entries point at each other
    (`Tagged`), and every encoded frame, on its way or written, is the encoding
    of a response under the id of its own request (`Encoded`). -/

namespace ServiceServer

open ServiceControl ServiceFrame ListUpdate

/-- The part of a task that no step changes. -/
def Task.tag (t : Task) : Nat × Nat × ControlRequest := (t.req, t.requestId, t.request)

/-- The tags of the spawned tasks. -/
def ServerConn.tags (s : ServerConn) : List (Nat × Nat × ControlRequest) := s.tasks.map Task.tag

@[simp] theorem length_tags (s : ServerConn) : s.tags.length = s.tasks.length :=
  List.length_map _

/-- The request the loop is turning away. -/
def LoopPhase.rejects : LoopPhase → Option Nat
  | .rejecting r _ _ => some r
  | .rejectWriting r _ _ _ => some r
  | _ => none

theorem Task.req_of_tag {t u : Task} (h : u.tag = t.tag) : u.req = t.req :=
  congrArg (fun a => a.1) h

theorem Task.requestId_of_tag {t u : Task} (h : u.tag = t.tag) : u.requestId = t.requestId :=
  congrArg (fun a => a.2.1) h

theorem Task.request_of_tag {t u : Task} (h : u.tag = t.tag) : u.request = t.request :=
  congrArg (fun a => a.2.2) h

theorem Task.tag_disconnect (t : Task) : t.disconnect.tag = t.tag := by
  simp only [Task.disconnect]
  split <;> rfl

theorem tags_getElem? {s : ServerConn} {i : Nat} {t : Task} (h : s.tasks[i]? = some t) :
    s.tags[i]? = some t.tag := by
  rw [ServerConn.tags, List.getElem?_map, h]
  rfl

@[simp] theorem tags_setPhase (s : ServerConn) (i : Nat) (p : TaskPhase) :
    (s.setPhase i p).tags = s.tags :=
  map_modify fun _ => rfl

@[simp] theorem tags_removePending (s : ServerConn) (self requestId : Nat) :
    (s.removePending self requestId).tags = s.tags := by
  simp only [ServerConn.removePending]
  split
  · rfl
  · rename_i j _
    by_cases hj : j = self
    · simp [ServerConn.tags, hj]
    · simp only [ServerConn.tags, if_neg hj]
      exact map_modify Task.tag_disconnect

/-- What reads neither the entries nor the tasks is left alone when an entry
    goes. -/
theorem removePending_keeps {β : Type} {g : ServerConn → β}
    (hg : ∀ (s : ServerConn) pending tasks, g { s with pending := pending, tasks := tasks } = g s)
    (s : ServerConn) (self requestId : Nat) : g (s.removePending self requestId) = g s := by
  simp only [ServerConn.removePending]
  split
  · rfl
  · exact hg _ _ _

@[simp] theorem requests_removePending (s : ServerConn) (self requestId : Nat) :
    (s.removePending self requestId).requests = s.requests :=
  removePending_keeps (g := ServerConn.requests) (fun _ _ _ => rfl) s self requestId

@[simp] theorem replies_removePending (s : ServerConn) (self requestId : Nat) :
    (s.removePending self requestId).replies = s.replies :=
  removePending_keeps (g := ServerConn.replies) (fun _ _ _ => rfl) s self requestId

@[simp] theorem out_removePending (s : ServerConn) (self requestId : Nat) :
    (s.removePending self requestId).out = s.out :=
  removePending_keeps (g := ServerConn.out) (fun _ _ _ => rfl) s self requestId

@[simp] theorem loop_removePending (s : ServerConn) (self requestId : Nat) :
    (s.removePending self requestId).loop = s.loop :=
  removePending_keeps (g := ServerConn.loop) (fun _ _ _ => rfl) s self requestId

theorem pending_removePending (s : ServerConn) (self requestId : Nat) :
    (s.removePending self requestId).pending = s.pending.erase requestId := by
  simp only [ServerConn.removePending]
  split
  · rename_i hnone
    exact (erase_absent hnone).symm
  · rfl

/-- What a step does to the log, the tags and the request in the loop's hands. -/
inductive LogMove (s s' : ServerConn) : Prop where
  | keep : s'.tags = s.tags → s'.requests = s.requests → s'.loop.rejects = s.loop.rejects →
      LogMove s s'
  | abandon (header : FrameHeader) : s'.tags = s.tags →
      s'.requests = s.record header .abandoned →
      s.loop.rejects = none → s'.loop.rejects = none → LogMove s s'
  | reject (header : FrameHeader) : s'.tags = s.tags →
      s'.requests = s.record header .rejecting →
      s.loop.rejects = none → s'.loop.rejects = some s.requests.length → LogMove s s'
  | spawn (header : FrameHeader) (request : ControlRequest) :
      s'.tags = s.tags ++ [(s.requests.length, header.requestId, request)] →
      s'.requests = s.record header (.spawned s.tasks.length) →
      s.loop.rejects = none → s'.loop.rejects = none → LogMove s s'
  | settle (r : Nat) (response : ControlResponse) (frame : List UInt8) (written : Nat)
      (d : Disposition) : s.loop = .rejectWriting r response frame written →
      (d = .rejected ∧ written = frame.length) ∨ d = .abandoned → s'.tags = s.tags →
      s'.requests = s.settle r d → s'.replies = s.replies → s'.loop.rejects = none →
      LogMove s s'

theorem taskMove_log {cfg : ServerCfg} {s s' : ServerConn} {i : Nat} {t : Task} {e : TaskEvent}
    (m : TaskMove cfg s i t e s') : LogMove s s' := by
  have hphase : ∀ p, (s.setPhase i p).tags = s.tags := fun p => tags_setPhase s i p
  cases m with
  | pollLock | pollInvoke | acquire | handlerReturn | handlerPanic | abortSeen | encodeFail
  | encode | lockWriter | flush | writeFail | drop =>
      exact .keep (hphase _) rfl rfl
  | write response frame written n =>
      exact .keep (tags_setPhase _ _ _) rfl rfl
  | remove =>
      refine .keep ?_ ?_ ?_
      · exact (tags_setPhase _ _ _).trans (tags_removePending _ _ _)
      · exact requests_removePending _ _ _
      · exact congrArg LoopPhase.rejects (loop_removePending _ _ _)

/-- A task never touches the loop or the log. -/
theorem taskMove_loop {cfg : ServerCfg} {s s' : ServerConn} {i : Nat} {t : Task} {e : TaskEvent}
    (m : TaskMove cfg s i t e s') : s'.loop = s.loop ∧ s'.requests = s.requests := by
  cases m with
  | remove => exact ⟨loop_removePending _ _ _, requests_removePending _ _ _⟩
  | pollLock | pollInvoke | acquire | handlerReturn | handlerPanic | abortSeen | encodeFail
  | encode | lockWriter | write | flush | writeFail | drop => exact ⟨rfl, rfl⟩

/-- A loop that is reading a payload has no request in its hands. -/
theorem rejects_none_of_reading {s : ServerConn} {header : FrameHeader}
    (h : (∃ declared, s.loop = .reading declared header) ∨
      ∃ declared why, s.loop = .discarding declared header why) : s.loop.rejects = none := by
  rcases h with ⟨_, h⟩ | ⟨_, _, h⟩ <;> rw [h] <;> rfl

theorem loopMove_log {cfg : ServerCfg} {s s' : ServerConn} {e : LoopEvent}
    (m : LoopMove cfg s e s') : LogMove s s' := by
  cases m with
  | beginDrain => exact .keep rfl rfl rfl
  | stopReading hl => exact .keep rfl rfl (by rw [hl]; rfl)
  | headerFailed _ hl => exact .keep rfl rfl (by rw [hl]; rfl)
  | toDiscarding _ _ _ hl => exact .keep rfl rfl (by rw [hl]; rfl)
  | toReading _ _ hl => exact .keep rfl rfl (by rw [hl]; rfl)
  | toCancelling _ _ _ hl => exact .keep rfl rfl (by rw [hl]; rfl)
  | notRequest _ _ _ hl => exact .keep rfl rfl (by rw [hl]; rfl)
  | abandon header bytes error slots hl =>
      exact .abandon header rfl rfl (rejects_none_of_reading hl) rfl
  | reject header bytes method response frame slots hl =>
      exact .reject header rfl rfl (rejects_none_of_reading hl) rfl
  | spawn declared header bytes method body hl =>
      refine .spawn header ⟨body.token, method, body.params⟩ ?_ rfl (by rw [hl]; rfl) rfl
      simp [ServerConn.tags, Task.tag]
  | discardFailed _ _ _ _ hl => exact .keep rfl rfl (by rw [hl]; rfl)
  | readFailed _ _ _ hl => exact .keep rfl rfl (by rw [hl]; rfl)
  | cancelMiss _ hl => exact .keep rfl rfl (by rw [hl]; rfl)
  | cancelHit _ _ hl => exact .keep (map_modify fun _ => rfl) rfl (by rw [hl]; rfl)
  | insert i requestId hl =>
      refine .keep ?_ (requests_removePending _ _ _) (by rw [hl]; rfl)
      exact tags_removePending s i requestId
  | rejectLock _ _ _ hl => exact .keep rfl rfl (by rw [hl]; rfl)
  | rejectWrite _ _ _ _ _ hl => exact .keep rfl rfl (by rw [hl]; rfl)
  | rejectFlush r response frame hl =>
      exact .settle r response frame _ _ hl (.inl ⟨rfl, rfl⟩) rfl rfl rfl rfl
  | rejectFail r response frame written _ hl =>
      exact .settle r response frame written _ hl (.inr rfl) rfl rfl rfl rfl
  | drainSweep hl =>
      refine .keep (map_mapIdx ?_) rfl (by rw [hl]; rfl)
      intro j t
      split <;> rfl

theorem step_log {cfg : ServerCfg} {s s' : ServerConn} {e : ServerEvent}
    (h : step cfg s e = some s') : LogMove s s' := by
  rcases step_move h with ⟨_, _, m⟩ | ⟨_, _, _, _, _, m⟩
  · exact loopMove_log m
  · exact taskMove_log m

/-- Requests are never forgotten. -/
theorem step_requests {cfg : ServerCfg} {s s' : ServerConn} {e : ServerEvent}
    (hs : step cfg s e = some s') : s.requests.length ≤ s'.requests.length := by
  cases step_log hs with
  | keep _ hreq _ => exact Nat.le_of_eq (congrArg List.length hreq.symm)
  | abandon _ _ hreq _ _ | reject _ _ hreq _ _ | spawn _ _ _ hreq _ _ =>
      rw [hreq]
      simp [ServerConn.record]
  | settle _ _ _ _ _ _ _ _ hreq =>
      rw [hreq]
      simp [ServerConn.settle]

/-- Tasks are never forgotten. -/
theorem step_length {cfg : ServerCfg} {s s' : ServerConn} {e : ServerEvent}
    (hs : step cfg s e = some s') : s.tasks.length ≤ s'.tasks.length := by
  rw [← length_tags, ← length_tags]
  cases step_log hs with
  | spawn header request htags _ _ _ =>
      rw [htags]
      simp
  | keep htags _ _ | abandon _ htags _ _ _ | reject _ htags _ _ _ | settle _ _ _ _ _ _ _ htags =>
      exact Nat.le_of_eq (congrArg List.length htags.symm)

/-! ## Tasks and log entries point at each other -/

/-- The log and the tasks agree, and the request the loop is turning away is
    the one logged as such. -/
structure Tagged (s : ServerConn) : Prop where
  task_logged : ∀ (i : Nat) (a : Nat × Nat × ControlRequest), s.tags[i]? = some a →
    ∃ q : RequestLog, s.requests[a.1]? = some q ∧ q.requestId = a.2.1 ∧
      q.disposition = .spawned i
  spawned_task : ∀ (r : Nat) (q : RequestLog) (i : Nat), s.requests[r]? = some q →
    q.disposition = .spawned i → ∃ a : Nat × Nat × ControlRequest, s.tags[i]? = some a ∧ a.1 = r
  loop_rejecting : ∀ r : Nat, s.loop.rejects = some r →
    ∃ q : RequestLog, s.requests[r]? = some q ∧ q.disposition = .rejecting
  rejecting_loop : ∀ (r : Nat) (q : RequestLog), s.requests[r]? = some q →
    q.disposition = .rejecting → s.loop.rejects = some r

theorem tagged_start (cfg : ServerCfg) : Tagged (.start cfg) where
  task_logged := by intro i a h; exact nomatch h
  spawned_task := by intro r q i h; exact nomatch h
  loop_rejecting := by intro r h; exact nomatch h
  rejecting_loop := by intro r q h; exact nomatch h

/-- Appending an entry that no task owns. -/
theorem Tagged.append {s s' : ServerConn} (h : Tagged s) {header : FrameHeader}
    {d : Disposition} (hd : ∀ i, d ≠ .spawned i) (htags : s'.tags = s.tags)
    (hreq : s'.requests = s.record header d) (hnone : s.loop.rejects = none)
    (hloop : s'.loop.rejects = if d = .rejecting then some s.requests.length else none) :
    Tagged s' where
  task_logged := by
    intro i a ha
    rw [htags] at ha
    obtain ⟨q, hq, hid, hdq⟩ := h.task_logged i a ha
    exact ⟨q, hreq ▸ getElem?_concat_of_some hq, hid, hdq⟩
  spawned_task := by
    intro r q i hq hdq
    rw [htags]
    rw [hreq] at hq
    rcases getElem?_concat_inv hq with hq | ⟨-, rfl⟩
    · exact h.spawned_task r q i hq hdq
    · exact absurd hdq (hd i)
  loop_rejecting := by
    intro r hr
    rw [hloop] at hr
    split at hr
    · rename_i hdr
      cases hr
      refine ⟨⟨header.requestId, header.opcode, d⟩, ?_, hdr⟩
      rw [hreq]
      exact getElem?_concat_self
    · exact nomatch hr
  rejecting_loop := by
    intro r q hq hdq
    rw [hreq] at hq
    rcases getElem?_concat_inv hq with hq | ⟨rfl, rfl⟩
    · have := h.rejecting_loop r q hq hdq
      rw [hnone] at this
      exact nomatch this
    · rw [hloop, if_pos hdq]

theorem Tagged.preserved {cfg : ServerCfg} {s s' : ServerConn} {e : ServerEvent} (h : Tagged s)
    (hs : step cfg s e = some s') : Tagged s' := by
  cases step_log hs with
  | keep htags hreq hloop =>
      exact {
        task_logged := by rw [htags, hreq]; exact h.task_logged
        spawned_task := by rw [htags, hreq]; exact h.spawned_task
        loop_rejecting := by rw [hreq, hloop]; exact h.loop_rejecting
        rejecting_loop := by rw [hreq, hloop]; exact h.rejecting_loop }
  | abandon header htags hreq hnone hloop =>
      exact h.append (by intro i; exact nofun) htags hreq hnone hloop
  | reject header htags hreq hnone hloop =>
      exact h.append (by intro i; exact nofun) htags hreq hnone hloop
  | spawn header request htags hreq hnone hloop =>
      refine ⟨?_, ?_, ?_, ?_⟩
      · intro i a ha
        rw [htags] at ha
        rcases getElem?_concat_inv ha with ha | ⟨rfl, rfl⟩
        · obtain ⟨q, hq, hid, hdq⟩ := h.task_logged i a ha
          exact ⟨q, hreq ▸ getElem?_concat_of_some hq, hid, hdq⟩
        · refine ⟨⟨header.requestId, header.opcode, .spawned s.tasks.length⟩, ?_, rfl, ?_⟩
          · rw [hreq]
            exact getElem?_concat_self
          · simp [ServerConn.tags]
      · intro r q i hq hdq
        rw [hreq] at hq
        rw [htags]
        rcases getElem?_concat_inv hq with hq | ⟨rfl, rfl⟩
        · obtain ⟨a, ha, har⟩ := h.spawned_task r q i hq hdq
          exact ⟨a, getElem?_concat_of_some ha, har⟩
        · cases hdq
          refine ⟨(s.requests.length, header.requestId, request), ?_, rfl⟩
          rw [← length_tags]
          exact getElem?_concat_self
      · intro r hr
        rw [hloop] at hr
        exact nomatch hr
      · intro r q hq hdq
        rw [hreq] at hq
        rcases getElem?_concat_inv hq with hq | ⟨rfl, rfl⟩
        · have := h.rejecting_loop r q hq hdq
          rw [hnone] at this
          exact nomatch this
        · exact nomatch hdq
  | settle r response frame written d hl hd htags hreq _ hloop =>
      -- the settled entry was `rejecting`, so it belongs to no task
      have hrej : s.loop.rejects = some r := by rw [hl]; rfl
      obtain ⟨qr, hqr, hqd⟩ := h.loop_rejecting r hrej
      refine ⟨?_, ?_, ?_, ?_⟩
      · intro i a ha
        rw [htags] at ha
        obtain ⟨q, hq, hid, hdq⟩ := h.task_logged i a ha
        have hne : r ≠ a.1 := by
          intro heq
          rw [heq, hq] at hqr
          cases hqr
          rw [hdq] at hqd
          exact nomatch hqd
        refine ⟨q, ?_, hid, hdq⟩
        rw [hreq]
        exact (getElem?_modify_ne hne).trans hq
      · intro r' q i hq hdq
        rw [hreq] at hq
        rw [htags]
        obtain ⟨q₀, hq₀, ⟨-, rfl⟩ | ⟨-, rfl⟩⟩ := getElem?_modify_inv hq
        · rcases hd with ⟨rfl, -⟩ | rfl <;> exact nomatch hdq
        · exact h.spawned_task r' _ i hq₀ hdq
      · intro r' hr'
        rw [hloop] at hr'
        exact nomatch hr'
      · intro r' q hq hdq
        rw [hreq] at hq
        obtain ⟨q₀, hq₀, ⟨-, rfl⟩ | ⟨hne, rfl⟩⟩ := getElem?_modify_inv hq
        · rcases hd with ⟨rfl, -⟩ | rfl <;> exact nomatch hdq
        · have := h.rejecting_loop r' _ hq₀ hdq
          rw [hrej] at this
          cases this
          exact absurd rfl hne

/-- Different tasks serve different requests. -/
theorem Tagged.req_injective {s : ServerConn} (h : Tagged s) {i j : Nat} {t u : Task}
    (ht : s.tasks[i]? = some t) (hu : s.tasks[j]? = some u) (hr : t.req = u.req) : i = j := by
  obtain ⟨q, hq, -, hd⟩ := h.task_logged i _ (tags_getElem? ht)
  obtain ⟨q', hq', -, hd'⟩ := h.task_logged j _ (tags_getElem? hu)
  have hqq : some q = some q' := by
    rw [← hq, ← hq']
    exact congrArg (fun r => s.requests[r]?) hr
  cases hqq
  rw [hd] at hd'
  exact Disposition.spawned.inj hd'

/-! ## The life of one task -/

/-- The phases a task goes through by its own steps. -/
inductive PhaseStep (cfg : ServerCfg) (t : Task) : TaskEvent → TaskPhase → Prop where
  | lock : t.phase = .spawned → t.request.method.isMutating = true →
      PhaseStep cfg t .poll .locking
  | invoke : t.phase = .spawned → t.request.method.isMutating = false →
      PhaseStep cfg t .poll .handling
  | acquire : t.phase = .locking → PhaseStep cfg t .acquire .handling
  | handled (response : ControlResponse) : t.phase = .handling →
      PhaseStep cfg t (.handlerReturn response) (.responding response)
  | panicked : t.phase = .handling → PhaseStep cfg t .handlerPanic .panicked
  | abortSeen : t.phase = .handling → t.signal ≠ .quiet →
      PhaseStep cfg t .abortSeen (.responding cancelledResponse)
  | encodeFail (response : ControlResponse) (error : IpcError) :
      t.phase = .responding response →
      encodeBinaryResponse cfg.codec t.requestId t.request.method response cfg.limits
        = .error error →
      PhaseStep cfg t .encode .removing
  | encode (response : ControlResponse) (frame : List UInt8) :
      t.phase = .responding response →
      encodeBinaryResponse cfg.codec t.requestId t.request.method response cfg.limits
        = .ok frame →
      PhaseStep cfg t .encode (.encoded response frame)
  | lockWriter (response : ControlResponse) (frame : List UInt8) :
      t.phase = .encoded response frame →
      PhaseStep cfg t .lockWriter (.writing response frame 0)
  | write (response : ControlResponse) (frame : List UInt8) (written n : Nat) :
      t.phase = .writing response frame written → 0 < n → written + n ≤ frame.length →
      PhaseStep cfg t (.write n) (.writing response frame (written + n))
  | flush (response : ControlResponse) (frame : List UInt8) :
      t.phase = .writing response frame frame.length → PhaseStep cfg t .flush .removing
  | writeFail (response : ControlResponse) (frame : List UInt8) (written : Nat) :
      t.phase = .writing response frame written → PhaseStep cfg t .writeFail .removing
  | remove : t.phase = .removing → PhaseStep cfg t .remove .finished
  | drop : t.aborted = true → t.phase.live = true → PhaseStep cfg t .drop .dropped

/-- Where task `j` of the state after a step comes from: the same task with at
    most its flags changed, the task that moved, or the one just spawned. -/
inductive TaskOrigin (cfg : ServerCfg) (s : ServerConn) (e : ServerEvent) (j : Nat) (u : Task) :
    Prop where
  | same (t : Task) : (∀ te, e ≠ .task j te) → s.tasks[j]? = some t → u.tag = t.tag →
      u.phase = t.phase → (t.aborted = true → u.aborted = true) → TaskOrigin cfg s e j u
  | moved (t : Task) (te : TaskEvent) : e = .task j te → s.tasks[j]? = some t →
      u.tag = t.tag → PhaseStep cfg t te u.phase → u.aborted = t.aborted →
      TaskOrigin cfg s e j u
  | fresh : j = s.tasks.length → u.phase = .spawned →
      (∃ declared header bytes, e = .loop (.payload bytes) ∧ s.loop = .reading declared header ∧
        u.requestId = header.requestId ∧ u.req = s.requests.length ∧ u.aborted = false) →
      TaskOrigin cfg s e j u

/-- A task kept as it is. -/
theorem TaskOrigin.refl {cfg : ServerCfg} {s : ServerConn} {e : ServerEvent} {j : Nat} {u : Task}
    (he : ∀ te, e ≠ .task j te) (h : s.tasks[j]? = some u) : TaskOrigin cfg s e j u :=
  .same u he h rfl rfl id

/-- Task `i` moves to phase `p`, the others stay. -/
theorem origin_setPhase {cfg : ServerCfg} {s : ServerConn} {i j : Nat} {t u : Task}
    {te : TaskEvent} {p : TaskPhase} (ht : s.tasks[i]? = some t) (hp : PhaseStep cfg t te p)
    (hu : (s.setPhase i p).tasks[j]? = some u) : TaskOrigin cfg s (.task i te) j u := by
  obtain ⟨u₀, hu₀, ⟨rfl, rfl⟩ | ⟨hne, rfl⟩⟩ := getElem?_modify_inv hu
  · rw [ht] at hu₀
    cases hu₀
    exact .moved t te rfl ht rfl hp rfl
  · exact .refl (by rintro te' ⟨⟩; exact hne rfl) hu₀

theorem Task.disconnect_same (t : Task) :
    t.disconnect.tag = t.tag ∧ t.disconnect.phase = t.phase ∧ t.disconnect.aborted = t.aborted := by
  simp only [Task.disconnect]
  split <;> exact ⟨rfl, rfl, rfl⟩

/-- Removing an entry changes flags only. -/
theorem removePending_tasks {s : ServerConn} {self requestId j : Nat} {u : Task}
    (hu : (s.removePending self requestId).tasks[j]? = some u) :
    ∃ t, s.tasks[j]? = some t ∧ u.tag = t.tag ∧ u.phase = t.phase ∧ u.aborted = t.aborted := by
  simp only [ServerConn.removePending] at hu
  split at hu
  · exact ⟨u, hu, rfl, rfl, rfl⟩
  · rename_i k _
    by_cases hk : k = self
    · rw [if_pos hk] at hu
      exact ⟨u, hu, rfl, rfl, rfl⟩
    · rw [if_neg hk] at hu
      obtain ⟨t, ht, ⟨-, rfl⟩ | ⟨-, rfl⟩⟩ := getElem?_modify_inv hu
      · exact ⟨t, ht, t.disconnect_same⟩
      · exact ⟨_, ht, rfl, rfl, rfl⟩

theorem taskMove_origin {cfg : ServerCfg} {s s' : ServerConn} {i : Nat} {t : Task}
    {te : TaskEvent} (ht : s.tasks[i]? = some t) (m : TaskMove cfg s i t te s') {j : Nat} {u : Task}
    (hu : s'.tasks[j]? = some u) : TaskOrigin cfg s (.task i te) j u := by
  cases m with
  | pollLock hp hm => exact origin_setPhase ht (.lock hp hm) hu
  | pollInvoke hp hm => exact origin_setPhase ht (.invoke hp hm) hu
  | acquire hp => exact origin_setPhase ht (.acquire hp) hu
  | handlerReturn response hp => exact origin_setPhase ht (.handled response hp) hu
  | handlerPanic hp => exact origin_setPhase ht (.panicked hp) hu
  | abortSeen hp hs => exact origin_setPhase ht (.abortSeen hp hs) hu
  | encodeFail response error hp _ he =>
      exact origin_setPhase ht (.encodeFail response error hp he) hu
  | encode response frame hp _ he => exact origin_setPhase ht (.encode response frame hp he) hu
  | lockWriter response frame hp => exact origin_setPhase ht (.lockWriter response frame hp) hu
  | write response frame written n hp hn hle =>
      exact origin_setPhase ht (.write response frame written n hp hn hle) hu
  | flush response frame hp => exact origin_setPhase ht (.flush response frame hp) hu
  | writeFail response frame written hp =>
      exact origin_setPhase ht (.writeFail response frame written hp) hu
  | drop ha hl => exact origin_setPhase ht (.drop ha hl) hu
  | remove hp =>
      obtain ⟨u₁, hu₁, hcase⟩ := getElem?_modify_inv hu
      obtain ⟨u₀, hu₀, htag, hphase, hab⟩ := removePending_tasks hu₁
      rcases hcase with ⟨rfl, rfl⟩ | ⟨hne, rfl⟩
      · rw [ht] at hu₀
        cases hu₀
        exact .moved t .remove rfl ht htag (.remove hp) hab
      · exact .same u₀ (by rintro te' ⟨⟩; exact hne rfl) hu₀ htag hphase (fun h => hab ▸ h)

theorem loopMove_origin {cfg : ServerCfg} {s s' : ServerConn} {le : LoopEvent}
    (m : LoopMove cfg s le s') {j : Nat} {u : Task} (hu : s'.tasks[j]? = some u) :
    TaskOrigin cfg s (.loop le) j u := by
  have he : ∀ te, ServerEvent.loop le ≠ .task j te := fun te => nofun
  cases m with
  | beginDrain | stopReading | headerFailed | toDiscarding | toReading | toCancelling
  | notRequest | abandon | reject | discardFailed | readFailed | cancelMiss | rejectLock
  | rejectWrite | rejectFlush | rejectFail => exact .refl he hu
  | spawn declared header bytes method body hl =>
      rcases getElem?_concat_inv hu with hu | ⟨hj, rfl⟩
      · exact .refl he hu
      · exact .fresh hj rfl ⟨declared, header, bytes, rfl, hl, rfl, rfl, rfl⟩
  | cancelHit requestId k hl hp =>
      obtain ⟨t, ht, ⟨-, rfl⟩ | ⟨-, rfl⟩⟩ := getElem?_modify_inv hu
      · exact .same t he ht rfl rfl (fun _ => rfl)
      · exact .refl he ht
  | insert i requestId hl =>
      obtain ⟨t, ht, htag, hphase, hab⟩ := removePending_tasks hu
      exact .same t he ht htag hphase (fun h => hab ▸ h)
  | drainSweep hl =>
      rw [List.getElem?_mapIdx] at hu
      obtain ⟨t, ht, rfl⟩ := Option.map_eq_some_iff.mp hu
      refine .same t he ht ?_ ?_ ?_
      · split <;> rfl
      · split <;> rfl
      · intro ha
        split
        · rfl
        · exact ha

/-- **EVERY TASK AFTER A STEP HAS AN ORIGIN.** -/
theorem step_origin {cfg : ServerCfg} {s s' : ServerConn} {e : ServerEvent}
    (h : step cfg s e = some s') {j : Nat} {u : Task} (hu : s'.tasks[j]? = some u) :
    TaskOrigin cfg s e j u := by
  rcases step_move h with ⟨le, rfl, m⟩ | ⟨i, t, te, rfl, ht, m⟩
  · exact loopMove_origin m hu
  · exact taskMove_origin ht m hu

/-! ## Every frame carries the id of its own request -/

/-- `frame` is the encoding of `response` under the id of request `r`. -/
def FrameFor (cfg : ServerCfg) (s : ServerConn) (r : Nat) (response : ControlResponse)
    (frame : List UInt8) : Prop :=
  ∃ (q : RequestLog) (method : ControlMethod), s.requests[r]? = some q ∧
    encodeBinaryResponse cfg.codec q.requestId method response cfg.limits = .ok frame

theorem FrameFor.isFrame {cfg : ServerCfg} {s : ServerConn} {r : Nat}
    {response : ControlResponse} {frame : List UInt8} (h : FrameFor cfg s r response frame) :
    IsFrame cfg.limits frame := by
  obtain ⟨q, method, -, he⟩ := h
  exact encodeBinaryResponse_isFrame he

/-- Log entries keep their request id. -/
theorem LogMove.requestId {s s' : ServerConn} (m : LogMove s s') {r : Nat} {q : RequestLog}
    (h : s.requests[r]? = some q) :
    ∃ q' : RequestLog, s'.requests[r]? = some q' ∧ q'.requestId = q.requestId := by
  cases m with
  | keep _ hreq => exact ⟨q, hreq ▸ h, rfl⟩
  | abandon _ _ hreq | reject _ _ hreq | spawn _ _ _ hreq =>
      exact ⟨q, hreq ▸ getElem?_concat_of_some h, rfl⟩
  | settle r' _ _ _ d _ _ _ hreq =>
      rw [hreq]
      by_cases hr : r' = r
      · subst hr
        exact ⟨_, getElem?_modify_self h, rfl⟩
      · exact ⟨q, (getElem?_modify_ne hr).trans h, rfl⟩

theorem FrameFor.mono {cfg : ServerCfg} {s s' : ServerConn} {r : Nat}
    {response : ControlResponse} {frame : List UInt8} (m : LogMove s s')
    (h : FrameFor cfg s r response frame) : FrameFor cfg s' r response frame := by
  obtain ⟨q, method, hq, he⟩ := h
  obtain ⟨q', hq', hid⟩ := m.requestId hq
  exact ⟨q', method, hq', hid ▸ he⟩

/-- The frame a task holds is the encoding of its response. -/
def TaskEncoded (cfg : ServerCfg) (t : Task) : Prop :=
  match t.phase with
  | .encoded response frame =>
      encodeBinaryResponse cfg.codec t.requestId t.request.method response cfg.limits = .ok frame
  | .writing response frame written =>
      encodeBinaryResponse cfg.codec t.requestId t.request.method response cfg.limits = .ok frame
        ∧ written ≤ frame.length
  | _ => True

/-- The frame the loop holds is the encoding of its answer. -/
def LoopEncoded (cfg : ServerCfg) (s : ServerConn) : Prop :=
  match s.loop with
  | .rejecting r response frame => FrameFor cfg s r response frame
  | .rejectWriting r response frame written =>
      FrameFor cfg s r response frame ∧ written ≤ frame.length
  | _ => True

/-- Every frame held or written is the encoding of a response under the id of
    its own request. -/
structure Encoded (cfg : ServerCfg) (s : ServerConn) : Prop where
  tasks : ∀ (i : Nat) (t : Task), s.tasks[i]? = some t → TaskEncoded cfg t
  loop : LoopEncoded cfg s
  replies : ∀ p ∈ s.replies, FrameFor cfg s p.req p.response p.frame

theorem encoded_start (cfg : ServerCfg) : Encoded cfg (.start cfg) where
  tasks := by intro i t h; exact nomatch h
  loop := trivial
  replies := by intro p h; exact nomatch h

theorem TaskEncoded.phaseStep {cfg : ServerCfg} {t u : Task} {te : TaskEvent}
    (h : TaskEncoded cfg t) (htag : u.tag = t.tag) (hp : PhaseStep cfg t te u.phase) :
    TaskEncoded cfg u := by
  have hid : u.requestId = t.requestId := Task.requestId_of_tag htag
  have hrq : u.request = t.request := Task.request_of_tag htag
  simp only [TaskEncoded] at h ⊢
  rw [hid, hrq]
  generalize hup : u.phase = up at hp
  cases hp with
  | lock | invoke | acquire | handled | panicked | abortSeen | encodeFail | flush | writeFail
  | remove | drop => trivial
  | encode response frame _ he => exact he
  | lockWriter response frame htp =>
      rw [htp] at h
      exact ⟨h, Nat.zero_le _⟩
  | write response frame written n htp hn hle =>
      rw [htp] at h
      exact ⟨h.1, hle⟩

/-- What a step does to the output: only a write adds bytes and completes a
    reply, and both are the writer's own. -/
inductive ReplyMove (s : ServerConn) (e : ServerEvent) (s' : ServerConn) : Prop where
  | keep : (∀ i n, e ≠ .task i (.write n)) → (∀ n, e ≠ .loop (.rejectWrite n)) →
      s'.replies = s.replies → s'.out = s.out → ReplyMove s e s'
  | task (i : Nat) (t : Task) (response : ControlResponse) (frame : List UInt8)
      (written n : Nat) : e = .task i (.write n) → s.tasks[i]? = some t →
      t.phase = .writing response frame written → 0 < n → written + n ≤ frame.length →
      s'.replies = (if written + n = frame.length then s.replies ++ [⟨t.req, response, frame⟩]
        else s.replies) → s'.out = s.out ++ (frame.drop written).take n → s.broken = false →
      ReplyMove s e s'
  | loop (r : Nat) (response : ControlResponse) (frame : List UInt8) (written n : Nat) :
      e = .loop (.rejectWrite n) → s.loop = .rejectWriting r response frame written →
      s'.loop = .rejectWriting r response frame (written + n) → 0 < n →
      written + n ≤ frame.length →
      s'.replies = (if written + n = frame.length then s.replies ++ [⟨r, response, frame⟩]
        else s.replies) → s'.out = s.out ++ (frame.drop written).take n → s.broken = false →
      ReplyMove s e s'

theorem step_replies {cfg : ServerCfg} {s s' : ServerConn} {e : ServerEvent}
    (h : step cfg s e = some s') : ReplyMove s e s' := by
  rcases step_move h with ⟨le, rfl, m⟩ | ⟨i, t, te, rfl, ht, m⟩
  · cases m with
    | beginDrain | stopReading | headerFailed | toDiscarding | toReading | toCancelling
    | notRequest | abandon | reject | spawn | discardFailed | readFailed | cancelMiss | cancelHit
    | rejectLock | rejectFlush | rejectFail | drainSweep => exact .keep nofun nofun rfl rfl
    | insert i requestId hl =>
        exact .keep nofun nofun (replies_removePending _ _ _) (out_removePending _ _ _)
    | rejectWrite r response frame written n hl hn hle hb =>
        exact .loop r response frame written n rfl hl rfl hn hle rfl rfl hb
  · cases m with
    | pollLock | pollInvoke | acquire | handlerReturn | handlerPanic | abortSeen | encodeFail
    | encode | lockWriter | flush | writeFail | drop => exact .keep nofun nofun rfl rfl
    | remove => exact .keep nofun nofun (replies_removePending _ _ _) (out_removePending _ _ _)
    | write response frame written n hp hn hle hb =>
        exact .task i t response frame written n rfl ht hp hn hle rfl rfl hb

/-- A reply that a write completes is the encoding of its response. -/
theorem ReplyMove.frameFor {cfg : ServerCfg} {s s' : ServerConn} {e : ServerEvent}
    (m : ReplyMove s e s') (htag : Tagged s) (henc : Encoded cfg s) :
    ∀ p ∈ s'.replies, p ∈ s.replies ∨ FrameFor cfg s p.req p.response p.frame := by
  intro p hp
  cases m with
  | keep _ _ heq =>
      rw [heq] at hp
      exact .inl hp
  | task i t response frame written n _ ht hph _ _ heq =>
      rw [heq] at hp
      split at hp
      · rcases List.mem_append.mp hp with hp | hp
        · exact .inl hp
        · rw [List.mem_singleton.mp hp]
          obtain ⟨q, hq, hid, -⟩ := htag.task_logged i _ (tags_getElem? ht)
          have := henc.tasks i t ht
          rw [TaskEncoded, hph] at this
          exact .inr ⟨q, t.request.method, hq, hid ▸ this.1⟩
      · exact .inl hp
  | loop r response frame written n _ hl _ _ _ heq =>
      rw [heq] at hp
      split at hp
      · rcases List.mem_append.mp hp with hp | hp
        · exact .inl hp
        · rw [List.mem_singleton.mp hp]
          have := henc.loop
          rw [LoopEncoded, hl] at this
          exact .inr this.1
      · exact .inl hp

theorem Encoded.preserved {cfg : ServerCfg} {s s' : ServerConn} {e : ServerEvent}
    (htag : Tagged s) (h : Encoded cfg s) (hs : step cfg s e = some s') : Encoded cfg s' where
  tasks := by
    intro j u hu
    cases step_origin hs hu with
    | same t _ ht htg hp _ =>
        have := h.tasks j t ht
        have hid : u.requestId = t.requestId := Task.requestId_of_tag htg
        have hrq : u.request = t.request := Task.request_of_tag htg
        simp only [TaskEncoded] at this ⊢
        rw [hp, hid, hrq]
        exact this
    | moved t te _ ht htg hp _ => exact (h.tasks j t ht).phaseStep htg hp
    | fresh _ hp =>
        rw [TaskEncoded, hp]
        trivial
  loop := by
    have hlog := step_log hs
    have hold := h.loop
    rcases step_move hs with ⟨le, rfl, m⟩ | ⟨i, t, te, rfl, ht, m⟩
    · cases m with
      | beginDrain => exact hold
      | stopReading | headerFailed | toDiscarding | toReading | toCancelling | notRequest
      | abandon | spawn | discardFailed | readFailed | cancelMiss | cancelHit | insert
      | rejectFlush | rejectFail | drainSweep => trivial
      | reject header bytes method response frame slots hl he hr =>
          exact ⟨⟨header.requestId, header.opcode, .rejecting⟩, method, getElem?_concat_self, he⟩
      | rejectLock r response frame hl hw =>
          rw [LoopEncoded, hl] at hold
          exact ⟨hold, Nat.zero_le _⟩
      | rejectWrite r response frame written n hl hn hle hb =>
          rw [LoopEncoded, hl] at hold
          exact ⟨hold.1, hle⟩
    · have hloop := taskMove_loop m
      simp only [LoopEncoded, FrameFor] at hold ⊢
      rw [hloop.1, hloop.2]
      exact hold
  replies := by
    intro p hp
    rcases (step_replies hs).frameFor htag h p hp with hp | hf
    · exact (h.replies p hp).mono (step_log hs)
    · exact hf.mono (step_log hs)

/-! ## Losing the connection -/

@[simp] theorem broken_removePending (s : ServerConn) (self requestId : Nat) :
    (s.removePending self requestId).broken = s.broken :=
  removePending_keeps (g := ServerConn.broken) (fun _ _ _ => rfl) s self requestId

/-- What a step does to the connection: only a failed write breaks it. -/
inductive BreakMove (s : ServerConn) (e : ServerEvent) (s' : ServerConn) : Prop where
  | keep : (∀ i, e ≠ .task i .writeFail) → (∀ error, e ≠ .loop (.rejectFail error)) →
      s'.broken = s.broken → BreakMove s e s'
  | task (i : Nat) (t : Task) (response : ControlResponse) (frame : List UInt8)
      (written : Nat) : e = .task i .writeFail → s.tasks[i]? = some t →
      t.phase = .writing response frame written → s'.broken = true → BreakMove s e s'
  | loop (r : Nat) (response : ControlResponse) (frame : List UInt8) (written : Nat)
      (error : IpcError) : e = .loop (.rejectFail error) →
      s.loop = .rejectWriting r response frame written → s'.broken = true → BreakMove s e s'

theorem step_break {cfg : ServerCfg} {s s' : ServerConn} {e : ServerEvent}
    (hs : step cfg s e = some s') : BreakMove s e s' := by
  rcases step_move hs with ⟨le, rfl, m⟩ | ⟨i, t, te, rfl, ht, m⟩
  · cases m with
    | rejectFail r response frame written error hl =>
        exact .loop r response frame written error rfl hl rfl
    | insert i requestId hl => exact .keep nofun nofun (broken_removePending _ _ _)
    | beginDrain | stopReading | headerFailed | toDiscarding | toReading | toCancelling
    | notRequest | abandon | reject | spawn | discardFailed | readFailed | cancelMiss | cancelHit
    | rejectLock | rejectWrite | rejectFlush | drainSweep => exact .keep nofun nofun rfl
  · cases m with
    | writeFail response frame written hp => exact .task i t response frame written rfl ht hp rfl
    | remove => exact .keep nofun nofun (broken_removePending _ _ _)
    | pollLock | pollInvoke | acquire | handlerReturn | handlerPanic | abortSeen | encodeFail
    | encode | lockWriter | write | flush | drop => exact .keep nofun nofun rfl

/-- A connection that is whole after a step was whole before it. -/
theorem step_broken {cfg : ServerCfg} {s s' : ServerConn} {e : ServerEvent}
    (hs : step cfg s e = some s') (h : s'.broken = false) :
    s.broken = false ∧ ∀ i, e ≠ .task i .writeFail := by
  cases step_break hs with
  | keep hne _ heq => exact ⟨heq ▸ h, hne⟩
  | task _ _ _ _ _ _ _ _ hb | loop _ _ _ _ _ _ _ hb =>
      rw [hb] at h
      exact nomatch h

/-! ## Where a response comes from -/

/-- A response for request `r`: what its handler returned, or one of the errors
    the server makes up for it. -/
def SourcedFor (cfg : ServerCfg) (s : ServerConn) (r : Nat) (response : ControlResponse) : Prop :=
  (r, response) ∈ s.returned ∨ response = limitResponse cfg.limits ∨
    (∃ detail, response = badRequestResponse detail) ∨ response = cancelledResponse

/-- The response a task holds. -/
def TaskPhase.response? : TaskPhase → Option ControlResponse
  | .responding response | .encoded response _ | .writing response _ _ => some response
  | _ => none

/-- The request and the response the loop holds. -/
def LoopPhase.response? : LoopPhase → Option (Nat × ControlResponse)
  | .rejecting r response _ | .rejectWriting r response _ _ => some (r, response)
  | _ => none

/-- Every response held or written has a source. -/
structure Sourced (cfg : ServerCfg) (s : ServerConn) : Prop where
  tasks : ∀ (i : Nat) (t : Task) (response : ControlResponse), s.tasks[i]? = some t →
    t.phase.response? = some response → SourcedFor cfg s t.req response
  loop : ∀ (r : Nat) (response : ControlResponse), s.loop.response? = some (r, response) →
    SourcedFor cfg s r response
  replies : ∀ p ∈ s.replies, SourcedFor cfg s p.req p.response

theorem sourced_start (cfg : ServerCfg) : Sourced cfg (.start cfg) where
  tasks := by intro i t response h; exact nomatch h
  loop := by intro r response h; exact nomatch h
  replies := by intro p h; exact nomatch h

theorem returned_removePending (s : ServerConn) (self requestId : Nat) :
    (s.removePending self requestId).returned = s.returned :=
  removePending_keeps (g := ServerConn.returned) (fun _ _ _ => rfl) s self requestId

/-- What a step does to the handlers' results. -/
theorem step_returned {cfg : ServerCfg} {s s' : ServerConn} {e : ServerEvent}
    (hs : step cfg s e = some s') :
    (∀ p ∈ s.returned, p ∈ s'.returned) ∧
      ∀ i t response, e = .task i (.handlerReturn response) → s.tasks[i]? = some t →
        (t.req, response) ∈ s'.returned := by
  have hkeep : s'.returned = s.returned → (∀ i response, e ≠ .task i (.handlerReturn response)) →
      (∀ p ∈ s.returned, p ∈ s'.returned) ∧
        ∀ i t response, e = .task i (.handlerReturn response) → s.tasks[i]? = some t →
          (t.req, response) ∈ s'.returned := by
    intro hret hne
    refine ⟨fun p hp => hret ▸ hp, ?_⟩
    intro i t response he
    exact absurd he (hne i response)
  rcases step_move hs with ⟨le, rfl, m⟩ | ⟨i, t, te, rfl, ht, m⟩
  · cases m with
    | insert => exact hkeep (returned_removePending _ _ _) nofun
    | beginDrain | stopReading | headerFailed | toDiscarding | toReading | toCancelling
    | notRequest | abandon | reject | spawn | discardFailed | readFailed | cancelMiss | cancelHit
    | rejectLock | rejectWrite | rejectFlush | rejectFail | drainSweep => exact hkeep rfl nofun
  · cases m with
    | handlerReturn response hp =>
        refine ⟨fun p hp => List.mem_append_left _ hp, ?_⟩
        rintro i' t' response' ⟨⟩ ht'
        rw [ht] at ht'
        cases ht'
        exact List.mem_append_right _ (List.mem_singleton_self _)
    | remove => exact hkeep (returned_removePending _ _ _) nofun
    | pollLock | pollInvoke | acquire | handlerPanic | abortSeen | encodeFail | encode
    | lockWriter | write | flush | writeFail | drop => exact hkeep rfl nofun

theorem SourcedFor.mono {cfg : ServerCfg} {s s' : ServerConn} {e : ServerEvent}
    (hs : step cfg s e = some s') {r : Nat} {response : ControlResponse}
    (h : SourcedFor cfg s r response) : SourcedFor cfg s' r response :=
  h.imp_left ((step_returned hs).1 _)

/-- A task's response is kept, returned by its handler, or the cancelled error. -/
theorem PhaseStep.response_inv {cfg : ServerCfg} {t : Task} {te : TaskEvent} {p : TaskPhase}
    {response : ControlResponse} (h : PhaseStep cfg t te p) (hr : p.response? = some response) :
    t.phase.response? = some response ∨ te = .handlerReturn response ∨
      response = cancelledResponse := by
  cases h with
  | handled response' =>
      cases hr
      exact .inr (.inl rfl)
  | abortSeen =>
      cases hr
      exact .inr (.inr rfl)
  | encode _ _ hp | lockWriter _ _ hp | write _ _ _ _ hp =>
      rw [hp]
      exact .inl hr
  | lock | invoke | acquire | panicked | encodeFail | flush | writeFail | remove | drop =>
      exact nomatch hr

theorem Sourced.preserved {cfg : ServerCfg} {s s' : ServerConn} {e : ServerEvent}
    (h : Sourced cfg s) (hs : step cfg s e = some s') : Sourced cfg s' where
  tasks := by
    intro j u response hu hr
    cases step_origin hs hu with
    | same t _ ht htag hp _ =>
        rw [Task.req_of_tag htag]
        exact (h.tasks j t response ht (hp ▸ hr)).mono hs
    | moved t te he ht htag hp _ =>
        rw [Task.req_of_tag htag]
        rcases hp.response_inv hr with hr | rfl | rfl
        · exact (h.tasks j t response ht hr).mono hs
        · exact .inl ((step_returned hs).2 j t response he ht)
        · exact .inr (.inr (.inr rfl))
    | fresh _ hp =>
        rw [hp] at hr
        exact nomatch hr
  loop := by
    intro r response hr
    rcases step_move hs with ⟨le, rfl, m⟩ | ⟨i, t, te, rfl, ht, m⟩
    · cases m with
      | beginDrain => exact (h.loop r response hr).mono hs
      | reject header bytes method response' frame slots _ _ hsrc =>
          cases hr
          exact .inr (hsrc.imp_right .inl)
      | rejectLock r' response' frame hl =>
          cases hr
          exact (h.loop r response (by rw [hl]; rfl)).mono hs
      | rejectWrite r' response' frame written n hl =>
          cases hr
          exact (h.loop r response (by rw [hl]; rfl)).mono hs
      | stopReading | headerFailed | toDiscarding | toReading | toCancelling | notRequest
      | abandon | spawn | discardFailed | readFailed | cancelMiss | cancelHit | insert
      | rejectFlush | rejectFail | drainSweep => exact nomatch hr
    · rw [(taskMove_loop m).1] at hr
      exact (h.loop r response hr).mono hs
  replies := by
    intro p hp
    -- a completed reply is the one its writer held
    have hnew : ∀ (c : Prop) [Decidable c] (q : Reply), SourcedFor cfg s q.req q.response →
        (p ∈ if c then s.replies ++ [q] else s.replies) → SourcedFor cfg s p.req p.response := by
      intro c _ q hq hmem
      split at hmem
      · rcases List.mem_append.mp hmem with hmem | hmem
        · exact h.replies p hmem
        · rw [List.mem_singleton.mp hmem]
          exact hq
      · exact h.replies p hmem
    refine SourcedFor.mono hs ?_
    cases step_replies hs with
    | keep _ _ hrep => exact h.replies p (hrep ▸ hp)
    | task i t response frame written n _ ht hph _ _ hrep =>
        rw [hrep] at hp
        exact hnew _ _ (h.tasks i t response ht (by rw [hph]; rfl)) hp
    | loop r response frame written n _ hl _ _ _ hrep =>
        rw [hrep] at hp
        exact hnew _ _ (h.loop r response (by rw [hl]; rfl)) hp

end ServiceServer
