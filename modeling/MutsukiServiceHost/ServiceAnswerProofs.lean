import MutsukiServiceHost.ServiceServerLogProofs

/-! # One answer per request

    How many response frames were written for a request, in every state of
    every run of `serve_binary`.  A request gets at most one answer on every
    path (`Counted`).  It gets exactly one once the server is done with it, and
    that one is its handler's result (`Due`), in the runs whose handlers return
    a response that encodes and in which no request is displaced (`Answerable`):
    the request task drops a response that does not encode, so a run with an
    oversized response ends with a finished task and no answer; and a task whose
    entry was taken over answers that it was cancelled. -/

namespace ServiceServer

open ServiceControl ServiceFrame ListUpdate Transition

/-- How many response frames were written for request `r`. -/
def ServerConn.answers (s : ServerConn) (r : Nat) : Nat := (s.replies.map Reply.req).count r

theorem answers_append {s s' : ServerConn} {p : Reply} (h : s'.replies = s.replies ++ [p])
    (r : Nat) : s'.answers r = s.answers r + if p.req = r then 1 else 0 := by
  simp only [ServerConn.answers, h, List.map_append, List.count_append, List.map_cons, List.map_nil,
    List.count_singleton, beq_iff_eq]

theorem answers_congr {s s' : ServerConn} (h : s'.replies = s.replies) (r : Nat) :
    s'.answers r = s.answers r := by
  rw [ServerConn.answers, h]
  rfl

/-- A step leaves the count of a request alone unless its own writer moves. -/
theorem answers_other {cfg : ServerCfg} {s s' : ServerConn} {e : ServerEvent}
    (hs : step cfg s e = some s') {r : Nat}
    (htask : ∀ i t te, e = .task i te → s.tasks[i]? = some t → t.req ≠ r)
    (hloop : s.loop.rejects ≠ some r) : s'.answers r = s.answers r := by
  cases step_replies hs with
  | keep _ _ heq => exact answers_congr heq r
  | task i t response frame written n he ht _ _ _ heq =>
      split at heq
      · rw [answers_append heq r, if_neg (htask i t _ he ht)]
        rfl
      · exact answers_congr heq r
  | loop r' response frame written n he hl _ _ _ heq =>
      have hr : r' ≠ r := by
        rintro rfl
        exact hloop (by rw [hl]; rfl)
      split at heq
      · rw [answers_append heq r, if_neg hr]
        rfl
      · exact answers_congr heq r

/-- The count a task's phase stands for. -/
def PhaseCount : TaskPhase → Nat → Prop
  | .writing _ frame written, n => n = if written = frame.length then 1 else 0
  | .removing, n | .finished, n | .dropped, n => n ≤ 1
  | _, n => n = 0

theorem PhaseCount.le_one {p : TaskPhase} {n : Nat} (h : PhaseCount p n) : n ≤ 1 := by
  cases p with
  | writing response frame written =>
      have hn : n = if written = frame.length then 1 else 0 := h
      split at hn <;> omega
  | removing | finished | dropped => exact h
  | spawned | locking | handling | responding | encoded | panicked =>
      have hn : n = 0 := h
      omega

/-- The count of the request in the loop's hands. -/
def LoopCount (s : ServerConn) : Prop :=
  match s.loop with
  | .rejecting r _ _ => s.answers r = 0
  | .rejectWriting r _ frame written =>
      s.answers r = if written = frame.length then 1 else 0
  | _ => True

/-- Every request has at most one answer, and its state says how many. -/
structure Counted (s : ServerConn) : Prop where
  unread : ∀ r : Nat, s.requests.length ≤ r → s.answers r = 0
  tasks : ∀ (i : Nat) (t : Task), s.tasks[i]? = some t → PhaseCount t.phase (s.answers t.req)
  loop : LoopCount s
  rejected : ∀ (r : Nat) (q : RequestLog), s.requests[r]? = some q →
    q.disposition = .rejected → s.answers r = 1
  abandoned : ∀ (r : Nat) (q : RequestLog), s.requests[r]? = some q →
    q.disposition = .abandoned → s.answers r ≤ 1

theorem counted_start (cfg : ServerCfg) : Counted (.start cfg) where
  unread := by intro r _; rfl
  tasks := by intro i t h; exact nomatch h
  loop := trivial
  rejected := by intro r q h; exact nomatch h
  abandoned := by intro r q h; exact nomatch h

/-- The loop never turns away a request that has a task. -/
theorem Tagged.req_not_rejecting {s : ServerConn} (h : Tagged s) {i : Nat} {t : Task}
    (ht : s.tasks[i]? = some t) : s.loop.rejects ≠ some t.req := by
  intro hl
  obtain ⟨q, hq, -, hd⟩ := h.task_logged i _ (tags_getElem? ht)
  obtain ⟨q', hq', hd'⟩ := h.loop_rejecting _ hl
  have hqq : some q = some q' := hq.symm.trans hq'
  cases hqq
  rw [hd] at hd'
  exact nomatch hd'

/-- The count of a request that is neither a task's nor in the loop's hands
    does not change. -/
theorem Tagged.answers_settled {cfg : ServerCfg} {s s' : ServerConn} {e : ServerEvent}
    (h : Tagged s) (hs : step cfg s e = some s') {r : Nat}
    (hd : ∀ q : RequestLog, s.requests[r]? = some q →
      (∀ i, q.disposition ≠ .spawned i) ∧ q.disposition ≠ .rejecting) :
    s'.answers r = s.answers r := by
  refine answers_other hs ?_ ?_
  · rintro i t te - ht rfl
    obtain ⟨q, hq, -, hdq⟩ := h.task_logged i _ (tags_getElem? ht)
    exact (hd q hq).1 i hdq
  · intro hl
    obtain ⟨q, hq, hdq⟩ := h.loop_rejecting _ hl
    exact (hd q hq).2 hdq

/-- The count of a task that does not move does not change. -/
theorem Tagged.answers_same {cfg : ServerCfg} {s s' : ServerConn} {e : ServerEvent}
    (h : Tagged s) (hs : step cfg s e = some s') {j : Nat} {t : Task}
    (hne : ∀ te, e ≠ .task j te) (ht : s.tasks[j]? = some t) :
    s'.answers t.req = s.answers t.req := by
  refine answers_other hs ?_ (h.req_not_rejecting ht)
  rintro i t' te rfl ht' hr
  have hij := h.req_injective ht' ht hr
  subst hij
  exact hne te rfl

/-- Only `write` touches the replies; every other step of a task keeps every
    count. -/
theorem answers_of_not_write {cfg : ServerCfg} {s s' : ServerConn} {j : Nat} {te : TaskEvent}
    (hs : step cfg s (.task j te) = some s') (hne : ∀ n, te ≠ .write n) (r : Nat) :
    s'.answers r = s.answers r := by
  cases step_replies hs with
  | keep _ _ heq => exact answers_congr heq _
  | task i t' response frame written n he _ _ _ _ _ =>
      cases he
      exact absurd rfl (hne n)
  | loop r response frame written n he => exact nomatch he

/-- One step of a task's own: its phase and its count move together. -/
theorem PhaseCount.phaseStep {cfg : ServerCfg} {s s' : ServerConn} {j : Nat} {t u : Task}
    {te : TaskEvent} (henc : Encoded cfg s) (hs : step cfg s (.task j te) = some s')
    (ht : s.tasks[j]? = some t) (htag : u.tag = t.tag) (hp : PhaseStep cfg t te u.phase)
    (h : PhaseCount t.phase (s.answers t.req)) : PhaseCount u.phase (s'.answers u.req) := by
  have hreq : u.req = t.req := Task.req_of_tag htag
  rw [hreq]
  have hkeep : (∀ n, te ≠ .write n) → s'.answers t.req = s.answers t.req :=
    fun hne => answers_of_not_write hs hne _
  generalize hup : u.phase = up at hp
  cases hp with
  | lock htp | invoke htp | acquire htp | handled _ htp | panicked htp | abortSeen htp _
  | encode _ _ htp =>
      rw [hkeep (by simp)]
      rw [htp] at h
      exact h
  | encodeFail _ _ htp =>
      rw [hkeep (by simp)]
      rw [htp] at h
      have h0 : s.answers t.req = 0 := h
      show s.answers t.req ≤ 1
      omega
  | lockWriter response frame htp =>
      rw [hkeep (by simp)]
      have hframe := henc.tasks j t ht
      rw [TaskEncoded, htp] at hframe
      have hlen := (encodeBinaryResponse_isFrame hframe).length_ge
      rw [htp] at h
      have h0 : s.answers t.req = 0 := h
      show s.answers t.req = if 0 = frame.length then 1 else 0
      rw [if_neg (by omega), h0]
  | write response frame written n htp hn hle =>
      rw [htp] at h
      have h0 : s.answers t.req = if written = frame.length then 1 else 0 := h
      rw [if_neg (by omega)] at h0
      show s'.answers t.req = if written + n = frame.length then 1 else 0
      cases step_replies hs with
      | keep hne _ _ => exact absurd rfl (hne j n)
      | loop r _ _ _ _ he => cases he
      | task i t' response' frame' written' n' he ht' hph _ _ heq =>
          cases he
          rw [ht] at ht'
          cases ht'
          rw [htp] at hph
          cases hph
          by_cases hend : written + n = frame.length
          · rw [if_pos hend] at heq ⊢
            rw [answers_append heq, if_pos rfl, h0]
          · rw [if_neg hend] at heq ⊢
            rw [answers_congr heq, h0]
  | flush _ _ htp | writeFail _ _ _ htp | remove htp =>
      rw [hkeep (by simp)]
      exact h.le_one
  | drop _ _ =>
      rw [hkeep (by simp)]
      exact h.le_one

theorem Counted.step_tasks {cfg : ServerCfg} {s s' : ServerConn} {e : ServerEvent}
    (htag : Tagged s) (henc : Encoded cfg s) (h : Counted s) (hs : step cfg s e = some s') :
    ∀ (j : Nat) (u : Task), s'.tasks[j]? = some u → PhaseCount u.phase (s'.answers u.req) := by
  intro j u hu
  cases step_origin hs hu with
  | same t hne ht htg hp _ =>
      have hreq : u.req = t.req := Task.req_of_tag htg
      rw [hp, hreq, htag.answers_same hs hne ht]
      exact h.tasks j t ht
  | moved t te he ht htg hp _ =>
      subst he
      exact (h.tasks j t ht).phaseStep henc hs ht htg hp
  | fresh hj hp =>
      -- the request of a fresh task is the one the same step logs
      rw [hp]
      show s'.answers u.req = 0
      have hu' := tags_getElem? hu
      have hnew : s.tags[j]? = none := by
        rw [ServerConn.tags, List.getElem?_map, hj]
        simp
      have hreq : u.req = s.requests.length := by
        cases step_log hs with
        | spawn header request htags _ _ _ =>
            rw [htags] at hu'
            rcases getElem?_concat_inv hu' with hold | ⟨-, hb⟩
            · rw [hnew] at hold
              cases hold
            · exact congrArg (fun a => a.1) hb
        | keep htags _ _ | abandon _ htags _ _ _ | reject _ htags _ _ _
        | settle _ _ _ _ _ _ _ htags =>
            rw [htags, hnew] at hu'
            cases hu'
      rw [hreq, htag.answers_settled hs]
      · exact h.unread _ (Nat.le_refl _)
      · intro q hq
        have := lt_length_of_getElem? hq
        omega

theorem Counted.step_loop {cfg : ServerCfg} {s s' : ServerConn} {e : ServerEvent}
    (htag : Tagged s) (henc : Encoded cfg s) (h : Counted s) (hs : step cfg s e = some s') :
    LoopCount s' := by
  have hold := h.loop
  rcases step_move hs with ⟨le, rfl, m⟩ | ⟨i, t, te, rfl, ht, m⟩
  · cases m with
    | beginDrain => exact hold
    | stopReading | headerFailed | toDiscarding | toReading | toCancelling | notRequest
    | abandon | spawn | discardFailed | readFailed | cancelMiss | cancelHit | insert
    | rejectFlush | rejectFail | drainSweep => trivial
    | reject header bytes method response frame slots hl he hr =>
        exact h.unread _ (Nat.le_refl _)
    | rejectLock r response frame hl hw =>
        rw [LoopCount, hl] at hold
        have hframe := henc.loop
        rw [LoopEncoded, hl] at hframe
        have hlen := hframe.isFrame.length_ge
        show s.answers r = if 0 = frame.length then 1 else 0
        rw [if_neg (by omega)]
        exact hold
    | rejectWrite r response frame written n hl hn hle hb =>
        rw [LoopCount, hl] at hold
        have h0 : s.answers r = if written = frame.length then 1 else 0 := hold
        rw [if_neg (by omega)] at h0
        show ({ s.push r response frame written n with
          loop := LoopPhase.rejectWriting r response frame (written + n) } : ServerConn).answers r
          = if written + n = frame.length then 1 else 0
        by_cases hend : written + n = frame.length
        · rw [answers_append (p := ⟨r, response, frame⟩) (s := s) (if_pos hend), if_pos rfl,
            if_pos hend, h0]
        · rw [answers_congr (s := s) (if_neg hend), if_neg hend, h0]
  · -- a task's reply is for its own request, never for the loop's
    have hkeep : ∀ r, s.loop.rejects = some r → s'.answers r = s.answers r := by
      intro r hr
      cases step_replies hs with
      | keep _ _ heq => exact answers_congr heq r
      | loop r' _ _ _ _ he => cases he
      | task i' t' response frame written n he ht' _ _ _ heq =>
          have hne : t'.req ≠ r := by
            rintro rfl
            exact htag.req_not_rejecting ht' hr
          split at heq
          · rw [answers_append heq, if_neg hne]
            rfl
          · exact answers_congr heq r
    simp only [LoopCount] at hold ⊢
    rw [(taskMove_loop m).1]
    cases hl : s.loop with
    | rejecting r response frame =>
        rw [hl] at hold
        exact (hkeep r (by rw [hl]; rfl)).trans hold
    | rejectWriting r response frame written =>
        rw [hl] at hold
        exact (hkeep r (by rw [hl]; rfl)).trans hold
    | waiting | discarding | reading | cancelling | inserting | draining | done => trivial

/-- The counts of the settled entries of the log. -/
theorem Counted.step_log {cfg : ServerCfg} {s s' : ServerConn} {e : ServerEvent}
    (htag : Tagged s) (h : Counted s) (hs : step cfg s e = some s') {r : Nat} {q : RequestLog}
    (hq : s'.requests[r]? = some q) (hd : q.disposition = .rejected ∨ q.disposition = .abandoned) :
    s'.answers r ≤ 1 ∧ (q.disposition = .rejected → s'.answers r = 1) := by
  -- an entry that was settled before the step keeps its count
  have hsettled : s.requests[r]? = some q →
      s'.answers r ≤ 1 ∧ (q.disposition = .rejected → s'.answers r = 1) := by
    intro hq₀
    have hsame : s'.answers r = s.answers r := by
      refine htag.answers_settled hs ?_
      intro q' hq'
      rw [hq₀] at hq'
      cases hq'
      rcases hd with hd | hd <;> rw [hd] <;> exact ⟨nofun, nofun⟩
    rw [hsame]
    refine ⟨?_, h.rejected r q hq₀⟩
    rcases hd with hd | hd
    · exact Nat.le_of_eq (h.rejected r q hq₀ hd)
    · exact h.abandoned r q hq₀ hd
  cases ServiceServer.step_log hs with
  | keep _ hreq _ => exact hsettled (hreq ▸ hq)
  | reject header _ hreq _ _ =>
      rw [hreq] at hq
      rcases getElem?_concat_inv hq with hq | ⟨-, rfl⟩
      · exact hsettled hq
      · rcases hd with hd | hd <;> exact nomatch hd
  | spawn header request _ hreq _ _ =>
      rw [hreq] at hq
      rcases getElem?_concat_inv hq with hq | ⟨-, rfl⟩
      · exact hsettled hq
      · rcases hd with hd | hd <;> exact nomatch hd
  | abandon header _ hreq _ _ =>
      rw [hreq] at hq
      rcases getElem?_concat_inv hq with hq | ⟨rfl, rfl⟩
      · exact hsettled hq
      · have hnew : s'.answers s.requests.length = s.answers s.requests.length := by
          refine htag.answers_settled hs ?_
          intro q' hq'
          have := lt_length_of_getElem? hq'
          omega
        rw [hnew, h.unread _ (Nat.le_refl _)]
        exact ⟨Nat.zero_le _, nofun⟩
  | settle r' response frame written d hl hcase _ hreq hrep _ =>
      rw [hreq] at hq
      obtain ⟨q₀, hq₀, ⟨rfl, rfl⟩ | ⟨-, rfl⟩⟩ := getElem?_modify_inv hq
      · have hcount := h.loop
        rw [LoopCount, hl] at hcount
        have hc : s.answers r' = if written = frame.length then 1 else 0 := hcount
        rw [answers_congr hrep]
        refine ⟨?_, ?_⟩
        · split at hc <;> omega
        · intro hd'
          rcases hcase with ⟨-, hend⟩ | hab
          · rw [hc, if_pos hend]
          · exact nomatch (hab.symm.trans hd')
      · exact hsettled hq₀

theorem Counted.preserved {cfg : ServerCfg} {s s' : ServerConn} {e : ServerEvent}
    (htag : Tagged s) (henc : Encoded cfg s) (h : Counted s) (hs : step cfg s e = some s') :
    Counted s' where
  unread := by
    intro r hr
    have hlen := step_requests hs
    rw [htag.answers_settled hs]
    · exact h.unread r (Nat.le_trans hlen hr)
    · intro q hq
      have := lt_length_of_getElem? hq
      omega
  tasks := h.step_tasks htag henc hs
  loop := h.step_loop htag henc hs
  rejected := by
    intro r q hq hd
    exact (h.step_log htag hs hq (.inl hd)).2 hd
  abandoned := by
    intro r q hq hd
    exact (h.step_log htag hs hq (.inr hd)).1

/-! ## The answer is there when the server is done -/

/-- `encode_binary_response_with_scratch` accepts the response of a task. -/
def Encodes (cfg : ServerCfg) (t : Task) (response : ControlResponse) : Prop :=
  (encodeBinaryResponse cfg.codec t.requestId t.request.method response cfg.limits).isOk = true

instance (cfg : ServerCfg) (t : Task) (response : ControlResponse) :
    Decidable (Encodes cfg t response) :=
  inferInstanceAs (Decidable (_ = true))

/-- The steps under which no answer is lost or replaced: a handler returns, and
    what it returns encodes; and a task that nobody aborted does not see its abort
    channel closed, as it does when another request under its id takes over or
    removes its entry in `pending`. -/
def Answerable (cfg : ServerCfg) (s : ServerConn) : ServerEvent → Prop
  | .task i (.handlerReturn response) => ∀ t ∈ s.tasks[i]?, Encodes cfg t response
  | .task i .abortSeen => ∀ t ∈ s.tasks[i]?, t.aborted = true
  | .task _ .handlerPanic => False
  | _ => True

instance (cfg : ServerCfg) (s : ServerConn) (e : ServerEvent) :
    Decidable (Answerable cfg s e) :=
  match e with
  | .task i (.handlerReturn response) =>
      inferInstanceAs (Decidable (∀ t ∈ s.tasks[i]?, Encodes cfg t response))
  | .task i .abortSeen =>
      inferInstanceAs (Decidable (∀ t ∈ s.tasks[i]?, t.aborted = true))
  | .task _ .handlerPanic => inferInstanceAs (Decidable False)
  | .loop _ | .task _ .poll | .task _ .acquire | .task _ .encode | .task _ .lockWriter
  | .task _ (.write _) | .task _ .flush | .task _ .writeFail | .task _ .remove
  | .task _ .drop => inferInstanceAs (Decidable True)

/-- What the guarded runs add: a task that nobody aborted answers before it
    ends. -/
structure Answering (cfg : ServerCfg) (s : ServerConn) : Prop where
  responding : ∀ (i : Nat) (t : Task) (response : ControlResponse), s.tasks[i]? = some t →
    t.phase = .responding response → t.aborted = false → Encodes cfg t response
  settled : ∀ (i : Nat) (t : Task), s.tasks[i]? = some t →
    t.phase = .removing ∨ t.phase = .finished → t.aborted = false → s.broken = false →
      s.answers t.req = 1
  ended : ∀ (i : Nat) (t : Task), s.tasks[i]? = some t →
    t.phase ≠ .panicked ∧ (t.phase = .dropped → t.aborted = true)

theorem answering_start (cfg : ServerCfg) : Answering cfg (.start cfg) where
  responding := by intro i t response h; exact nomatch h
  settled := by intro i t h; exact nomatch h
  ended := by intro i t h; exact nomatch h

/-- An abort is never taken back, so a task not aborted now was not aborted before. -/
theorem Task.aborted_before {t u : Task} (hab : t.aborted = true → u.aborted = true)
    (hua : u.aborted = false) : t.aborted = false := by
  cases hta : t.aborted with
  | false => rfl
  | true => rw [hab hta] at hua; exact nomatch hua

theorem Answering.preserved {cfg : ServerCfg} {s s' : ServerConn} {e : ServerEvent}
    (htag : Tagged s) (hcount : Counted s) (h : Answering cfg s)
    (hok : Answerable cfg s e) (hs : step cfg s e = some s') : Answering cfg s' := by
  refine ⟨?_, ?_, ?_⟩
  · intro j u response hu hup hua
    cases step_origin hs hu with
    | same t _ ht htg hp hab =>
        have hta : t.aborted = false := Task.aborted_before hab hua
        have henc := h.responding j t response ht (hp ▸ hup) hta
        simp only [Encodes] at henc ⊢
        rw [Task.requestId_of_tag htg,
          Task.request_of_tag htg]
        exact henc
    | moved t te he ht htg hp hab =>
        subst he
        simp only [Encodes]
        rw [Task.requestId_of_tag htg,
          Task.request_of_tag htg]
        rw [hup] at hp
        cases hp with
        | handled _ _ => exact hok t ht
        | abortSeen _ _ =>
            have hta : t.aborted = true := hok t ht
            rw [← hab, hua] at hta
            cases hta
    | fresh _ hp =>
        rw [hp] at hup
        exact nomatch hup
  · intro j u hu hup hua hb
    obtain ⟨hb₀, hnofail⟩ := step_broken hs hb
    cases step_origin hs hu with
    | same t hne ht htg hp hab =>
        have hta : t.aborted = false := Task.aborted_before hab hua
        rw [Task.req_of_tag htg, htag.answers_same hs hne ht]
        exact h.settled j t ht (hp ▸ hup) hta hb₀
    | moved t te he ht htg hp hab =>
        subst he
        rw [Task.req_of_tag htg]
        have hcnt := hcount.tasks j t ht
        -- the only ways into `removing` and `finished`
        generalize hup' : u.phase = up at hp
        rw [hup'] at hup
        cases hp with
        | encodeFail response error htp herr =>
            have henc := h.responding j t response ht htp (hab ▸ hua)
            rw [Encodes, herr] at henc
            exact nomatch henc
        | flush response frame htp =>
            rw [htp] at hcnt
            rw [answers_of_not_write hs nofun]
            have hc : s.answers t.req = if frame.length = frame.length then 1 else 0 := hcnt
            rw [hc, if_pos rfl]
        | writeFail => exact absurd rfl (hnofail j)
        | remove htp =>
            rw [answers_of_not_write hs nofun]
            exact h.settled j t ht (.inl htp) (hab ▸ hua) hb₀
        | lock | invoke | acquire | handled | panicked | abortSeen | encode | lockWriter | write
        | drop => rcases hup with hup | hup <;> exact nomatch hup
    | fresh _ hp =>
        rw [hp] at hup
        rcases hup with hup | hup <;> exact nomatch hup
  · intro j u hu
    cases step_origin hs hu with
    | same t _ ht htg hp hab =>
        obtain ⟨hpanic, hdrop⟩ := h.ended j t ht
        rw [hp]
        exact ⟨hpanic, fun hd => hab (hdrop hd)⟩
    | moved t te he ht htg hp hab =>
        subst he
        generalize hup : u.phase = up at hp
        cases hp with
        | panicked => exact absurd hok id
        | drop ha _ => exact ⟨nofun, fun _ => hab.trans ha⟩
        | lock | invoke | acquire | handled | abortSeen | encodeFail | encode | lockWriter | write
        | flush | writeFail | remove => exact ⟨nofun, nofun⟩
    | fresh _ hp =>
        rw [hp]
        exact ⟨nofun, nofun⟩

/-! ## The answer is the request's own -/

/-- The error of a request that the loop turns away. -/
def TurnedAway (cfg : ServerCfg) (response : ControlResponse) : Prop :=
  response = limitResponse cfg.limits ∨ ∃ detail, response = badRequestResponse detail

/-- An answer to request `r` with the log entry `q`: what its handler returned, as
    long as its task was not aborted, or the error of a request turned away. -/
def AnswerOf (cfg : ServerCfg) (s : ServerConn) (r : Nat) (q : RequestLog)
    (response : ControlResponse) : Prop :=
  match q.disposition with
  | .spawned i => ∀ t ∈ s.tasks[i]?, t.aborted = false → (r, response) ∈ s.returned
  | .rejecting | .rejected | .abandoned => TurnedAway cfg response

/-- Every response held or written is the one due to its request. -/
structure Due (cfg : ServerCfg) (s : ServerConn) : Prop where
  tasks : ∀ (i : Nat) (t : Task) (response : ControlResponse), s.tasks[i]? = some t →
    t.phase.response? = some response → t.aborted = false → (t.req, response) ∈ s.returned
  loop : ∀ (r : Nat) (response : ControlResponse), s.loop.response? = some (r, response) →
    TurnedAway cfg response
  replies : ∀ p ∈ s.replies, ∀ q : RequestLog, s.requests[p.req]? = some q →
    AnswerOf cfg s p.req q p.response

theorem due_start (cfg : ServerCfg) : Due cfg (.start cfg) where
  tasks := by intro i t response h; exact nomatch h
  loop := by intro r response h; exact nomatch h
  replies := by intro p h; exact nomatch h

/-- An answer stays one while its log entry says the same. -/
theorem AnswerOf.same {cfg : ServerCfg} {s s' : ServerConn} {e : ServerEvent} (htag : Tagged s)
    (hs : step cfg s e = some s') {r : Nat} {q : RequestLog} {response : ControlResponse}
    (hq : s.requests[r]? = some q) (h : AnswerOf cfg s r q response) :
    AnswerOf cfg s' r q response := by
  cases hd : q.disposition with
  | rejecting | rejected | abandoned =>
      rw [AnswerOf, hd] at h ⊢
      exact h
  | spawned i =>
      rw [AnswerOf, hd] at h ⊢
      intro u hu hua
      have hold : ∀ t, s.tasks[i]? = some t → (t.aborted = true → u.aborted = true) →
          (r, response) ∈ s'.returned := fun t ht hab =>
        (step_returned hs).1 _ (h t ht (Task.aborted_before hab hua))
      cases step_origin hs hu with
      | same t _ ht _ _ hab => exact hold t ht hab
      | moved t _ _ ht _ _ hab => exact hold t ht fun ha => hab.trans ha
      | fresh hi _ =>
          -- the task of a logged request is older than the one just spawned
          obtain ⟨a, ha, -⟩ := htag.spawned_task r q i hq hd
          have hlt := lt_length_of_getElem? ha
          rw [length_tags] at hlt
          omega

/-- A log entry may be settled meanwhile. -/
theorem AnswerOf.preserved {cfg : ServerCfg} {s s' : ServerConn} {e : ServerEvent}
    (htag : Tagged s) (hs : step cfg s e = some s') {r : Nat} {q q' : RequestLog}
    {response : ControlResponse} (hq : s.requests[r]? = some q) (hq' : s'.requests[r]? = some q')
    (h : AnswerOf cfg s r q response) : AnswerOf cfg s' r q' response := by
  have hsame : s'.requests[r]? = some q → AnswerOf cfg s' r q' response := by
    intro hkept
    rw [hq'] at hkept
    cases hkept
    exact h.same htag hs hq
  cases step_log hs with
  | keep _ hreq _ => exact hsame (hreq ▸ hq)
  | abandon _ _ hreq | reject _ _ hreq | spawn _ _ _ hreq =>
      exact hsame (hreq ▸ getElem?_concat_of_some hq)
  | settle r' _ _ _ d hl hd _ hreq =>
      rw [hreq] at hq'
      obtain ⟨q₀, hq₀, ⟨rfl, rfl⟩ | ⟨-, rfl⟩⟩ := getElem?_modify_inv hq'
      · -- the settled request was in the loop's hands
        obtain ⟨qr, hqr, hrejecting⟩ := htag.loop_rejecting r' (by rw [hl]; rfl)
        rw [hq] at hq₀ hqr
        cases hq₀
        cases hqr
        rw [AnswerOf, hrejecting] at h
        obtain ⟨rfl, -⟩ | rfl := hd
        · exact h
        · exact h
      · obtain rfl := Option.some.inj (hq.symm.trans hq₀)
        exact h.same htag hs hq

/-- A reply that a write completes is an answer to its request. -/
theorem ReplyMove.answerOf {cfg : ServerCfg} {s s' : ServerConn} {e : ServerEvent}
    (m : ReplyMove s e s') (htag : Tagged s) (h : Due cfg s) {p : Reply} (hp : p ∈ s'.replies)
    {q : RequestLog} (hq : s.requests[p.req]? = some q) : AnswerOf cfg s p.req q p.response := by
  have hnew : ∀ (c : Prop) [Decidable c] (new : Reply),
      (∀ q, s.requests[new.req]? = some q → AnswerOf cfg s new.req q new.response) →
      (p ∈ if c then s.replies ++ [new] else s.replies) →
      AnswerOf cfg s p.req q p.response := by
    intro c _ new hof hmem
    split at hmem
    · rcases List.mem_append.mp hmem with hmem | hmem
      · exact h.replies p hmem q hq
      · obtain rfl := List.mem_singleton.mp hmem
        exact hof q hq
    · exact h.replies p hmem q hq
  cases m with
  | keep _ _ heq => exact h.replies p (heq ▸ hp) q hq
  | task i t response frame written n _ ht hph _ _ heq =>
      rw [heq] at hp
      refine hnew _ _ ?_ hp
      intro q₀ hq₀
      obtain ⟨q₁, hq₁, -, hd⟩ := htag.task_logged i _ (tags_getElem? ht)
      obtain rfl : q₀ = q₁ := Option.some.inj (hq₀.symm.trans hq₁)
      rw [AnswerOf, hd]
      intro u hu hua
      obtain rfl : t = u := Option.some.inj (ht.symm.trans hu)
      exact h.tasks i t response ht (by rw [hph]; rfl) hua
  | loop r response frame written n _ hl _ _ _ heq =>
      rw [heq] at hp
      refine hnew _ _ ?_ hp
      intro q₀ hq₀
      obtain ⟨q₁, hq₁, hd⟩ := htag.loop_rejecting r (by rw [hl]; rfl)
      obtain rfl : q₀ = q₁ := Option.some.inj (hq₀.symm.trans hq₁)
      rw [AnswerOf, hd]
      exact h.loop r response (by rw [hl]; rfl)

/-- Only the loop's own steps put an error into its hands. -/
theorem Due.step_loop {cfg : ServerCfg} {s s' : ServerConn} {e : ServerEvent} (h : Due cfg s)
    (hs : step cfg s e = some s') {r : Nat} {response : ControlResponse}
    (hr : s'.loop.response? = some (r, response)) : TurnedAway cfg response := by
  rcases step_move hs with ⟨le, rfl, m⟩ | ⟨i, t, te, rfl, ht, m⟩
  · cases m with
    | beginDrain => exact h.loop r response hr
    | reject header bytes method response' frame slots _ _ hsrc =>
        cases hr
        exact hsrc
    | rejectLock r' response' frame hl =>
        cases hr
        exact h.loop r response (by rw [hl]; rfl)
    | rejectWrite r' response' frame written n hl =>
        cases hr
        exact h.loop r response (by rw [hl]; rfl)
    | stopReading | headerFailed | toDiscarding | toReading | toCancelling | notRequest
    | abandon | spawn | discardFailed | readFailed | cancelMiss | cancelHit | insert
    | rejectFlush | rejectFail | drainSweep => cases hr
  · rw [(taskMove_loop m).1] at hr
    exact h.loop r response hr

theorem Due.preserved {cfg : ServerCfg} {s s' : ServerConn} {e : ServerEvent} (htag : Tagged s)
    (henc : Encoded cfg s) (h : Due cfg s) (hok : Answerable cfg s e)
    (hs : step cfg s e = some s') : Due cfg s' where
  tasks := by
    intro j u response hu hr hua
    cases step_origin hs hu with
    | same t _ ht htg hp hab =>
        rw [Task.req_of_tag htg]
        have hta := Task.aborted_before hab hua
        exact (step_returned hs).1 _ (h.tasks j t response ht (hp ▸ hr) hta)
    | moved t te he ht htg hp hab =>
        subst he
        rw [Task.req_of_tag htg]
        have hkeep : t.phase.response? = some response → (t.req, response) ∈ s'.returned :=
          fun hold => (step_returned hs).1 _ (h.tasks j t response ht hold (hab ▸ hua))
        generalize u.phase = up at hp hr
        cases hp with
        | handled response' =>
            cases hr
            exact (step_returned hs).2 j t response rfl ht
        | abortSeen =>
            have hta : t.aborted = true := hok t ht
            rw [← hab, hua] at hta
            cases hta
        | encode _ _ hp | lockWriter _ _ hp | write _ _ _ _ hp =>
            refine hkeep ?_
            rw [hp]
            exact hr
        | lock | invoke | acquire | panicked | encodeFail | flush | writeFail | remove | drop =>
            cases hr
    | fresh _ hp =>
        rw [hp] at hr
        cases hr
  loop := fun _ _ hr => h.step_loop hs hr
  replies := by
    intro p hp q' hq'
    -- a reply is written for a request that was logged before
    have hlogged : ∃ q, s.requests[p.req]? = some q := by
      rcases (step_replies hs).frameFor htag henc p hp with hold | ⟨q, -, hq, -⟩
      · obtain ⟨q, -, hq, -⟩ := henc.replies p hold
        exact ⟨q, hq⟩
      · exact ⟨q, hq⟩
    obtain ⟨q, hq⟩ := hlogged
    exact ((step_replies hs).answerOf htag h hp hq).preserved htag hs hq hq'

/-! ## One answer -/

/-- The server is done with request `r`: the loop turned it away and went on,
    or its task ended without being aborted and without losing the connection. -/
def ServerDone (s : ServerConn) (q : RequestLog) : Prop :=
  q.disposition = .rejected ∨
    ∃ (i : Nat) (t : Task), q.disposition = .spawned i ∧ s.tasks[i]? = some t ∧
      t.phase.live = false ∧ t.aborted = false ∧ s.broken = false

/-- Every request has at most one answer, under its own id: its handler's result
    unless it was aborted, or the error of a request turned away; and exactly one
    when the server is done with it. -/
def AnsweredOnce (cfg : ServerCfg) (s : ServerConn) : Prop :=
  ∀ (r : Nat) (q : RequestLog), s.requests[r]? = some q →
    s.answers r ≤ 1 ∧
      (∀ p ∈ s.replies, p.req = r →
        FrameFor cfg s r p.response p.frame ∧ AnswerOf cfg s r q p.response) ∧
      (ServerDone s q → s.answers r = 1)

/-- No request has two answers. -/
theorem Counted.answers_le_one {s : ServerConn} (hcount : Counted s) (htag : Tagged s) {r : Nat}
    {q : RequestLog} (hq : s.requests[r]? = some q) : s.answers r ≤ 1 := by
  cases hd : q.disposition with
  | spawned i =>
      obtain ⟨a, ha, har⟩ := htag.spawned_task r q i hq hd
      rw [ServerConn.tags, List.getElem?_map] at ha
      obtain ⟨t, ht, hta⟩ := Option.map_eq_some_iff.mp ha
      have hr : t.req = r := by rw [← har, ← hta]; rfl
      exact hr ▸ (hcount.tasks i t ht).le_one
  | rejecting =>
      have hl := htag.rejecting_loop r q hq hd
      have hc := hcount.loop
      simp only [LoopCount] at hc
      cases hloop : s.loop with
      | rejecting r' response frame =>
          rw [hloop] at hl hc
          cases hl
          have h0 : s.answers r = 0 := hc
          omega
      | rejectWriting r' response frame written =>
          rw [hloop] at hl hc
          cases hl
          have h0 : s.answers r = if written = frame.length then 1 else 0 := hc
          split at h0 <;> omega
      | waiting | discarding | reading | cancelling | inserting | draining | done =>
          rw [hloop] at hl
          cases hl
  | rejected => exact Nat.le_of_eq (hcount.rejected r q hq hd)
  | abandoned => exact hcount.abandoned r q hq hd

/-- **ONE ANSWER PER REQUEST**: in every run whose handlers return responses
    that encode and in which no request is displaced, every request is answered at
    most once, with what is due to it, and exactly once when the server is done
    with it. -/
theorem answered_once {cfg : ServerCfg} {s : ServerConn}
    (h : Reaches (step cfg) (Answerable cfg) (.start cfg) s) : AnsweredOnce cfg s := by
  have hinv : (Tagged s ∧ Encoded cfg s ∧ Counted s) ∧ Answering cfg s ∧ Due cfg s := by
    refine h.invariant
      (P := fun s => (Tagged s ∧ Encoded cfg s ∧ Counted s) ∧ Answering cfg s ∧ Due cfg s)
      ⟨⟨tagged_start cfg, encoded_start cfg, counted_start cfg⟩, answering_start cfg,
        due_start cfg⟩ ?_
    rintro s e s' ⟨⟨htag, henc, hcount⟩, hans, hdue⟩ hok hs
    exact ⟨⟨htag.preserved hs, henc.preserved htag hs, hcount.preserved htag henc hs⟩,
      hans.preserved htag hcount hok hs, hdue.preserved htag henc hok hs⟩
  obtain ⟨⟨htag, henc, hcount⟩, hans, hdue⟩ := hinv
  intro r q hq
  refine ⟨hcount.answers_le_one htag hq, ?_, ?_⟩
  · rintro p hp rfl
    exact ⟨henc.replies p hp, hdue.replies p hp q hq⟩
  · rintro (hd | ⟨i, t, hd, ht, hlive, hab, hb⟩)
    · exact hcount.rejected r q hq hd
    · obtain ⟨a, ha, har⟩ := htag.spawned_task r q i hq hd
      rw [tags_getElem? ht] at ha
      cases ha
      have hr : t.req = r := har
      rw [← hr]
      -- an ended task that was not aborted neither panicked nor was dropped
      obtain ⟨hpanic, hdrop⟩ := hans.ended i t ht
      refine hans.settled i t ht ?_ hab hb
      cases hp : t.phase with
      | finished => exact .inr rfl
      | panicked => exact absurd hp hpanic
      | dropped => rw [hdrop hp] at hab; exact nomatch hab
      | spawned | locking | handling | responding | encoded | writing | removing =>
          rw [hp] at hlive
          exact nomatch hlive

/-- One request, up to the encoding of its response. -/
def answeringRun (response : ControlResponse) : List ServerEvent :=
  sampleRequest .healthCheck 1 ++
    [.task 0 .poll, .task 0 (.handlerReturn response), .task 0 .encode]

/-- The state after a small response was written. -/
def answeredState : ServerConn :=
  (run (step sampleCfg) (Answerable sampleCfg) (.start sampleCfg)
    (answeringRun .emptyOk ++
      [.task 0 .lockWriter, .task 0 (.write 41), .task 0 .flush, .task 0 .remove])).getD
    (.start sampleCfg)

theorem answered_once_sample :
    Reaches (step sampleCfg) (Answerable sampleCfg) (.start sampleCfg) answeredState ∧
      AnsweredOnce sampleCfg answeredState ∧ answeredState.answers 0 = 1 :=
  ⟨reaches_getD (by decide), answered_once (reaches_getD (by decide)), by decide⟩

/-- Limits that admit the sample request and refuse a response of more than
    twenty payload bytes. -/
def tightCfg : ServerCfg := ⟨{ sampleLimits with maxPayloadBytes := 20 }, sampleCodec⟩

/-- The state after a response of twenty-three payload bytes was dropped. -/
def oversizedState : ServerConn :=
  (run (step tightCfg) Free (.start tightCfg)
    (answeringRun (.okValue (.string "0123456789")) ++ [.task 0 .remove])).getD (.start tightCfg)

/-- **A LOST ANSWER**: the task of a request whose response does not encode
    finishes without writing anything. -/
theorem oversized_response_unanswered :
    ∃ s, Reaches (step tightCfg) Free (.start tightCfg) s ∧ ¬ AnsweredOnce tightCfg s := by
  refine ⟨oversizedState, reaches_getD (by decide), ?_⟩
  intro h
  have hdone : ServerDone oversizedState ⟨1, 0x13, .spawned 0⟩ :=
    .inr ⟨0, _, rfl, rfl, rfl, rfl, rfl⟩
  have hone := (h 0 ⟨1, 0x13, .spawned 0⟩ (by decide)).2.2 hdone
  exact absurd hone (by decide)

end ServiceServer
