import MutsukiServiceHost.ServiceAnswerProofs
import MutsukiServiceHost.ServiceLinkProofs

/-! # Late responses — a timeout and the rest of the session

    A `send` that times out and a `cancel` take their entry out of `pending` at
    once; the server learns of it later.  A response that is already on its way,
    or that the server completes before it reads the CANCEL frame, finds no
    entry: `read_binary_loop` returns `LateResponse`, `closed` is set and every
    other call in flight is failed.

    `session_survives` is the session without that race: as long as no entry is
    taken out while its response is on its way, and no response is completed
    whose entry is gone, the reader goes on, whatever the order of sends,
    timeouts, cancels and deliveries.  On a run the argument is one invariant,
    `OnTime`: every response on its way has its entry.  That a delivery takes out
    no second response's entry is the server's at-most-once answer. -/

namespace ServiceLink

open ServiceControl ServiceFrame ListUpdate Transition

/-! ## Responses on their way -/

/-- The id under which the session's reader takes a frame for a response. -/
def replyId (cfg : LinkCfg) (frame : List UInt8) : Option Nat :=
  match readBinaryFrameInto cfg.limits frame with
  | .ok (some (header, payload, _)) =>
      if header.flags.contains .response ∧
          (cfg.msgpack.unpackResponse cfg.limits.maxMsgpackNestingDepth payload).isOk = true then
        some header.requestId
      else none
  | _ => none

theorem replyId_decodes {cfg : LinkCfg} {frame : List UInt8} {id : Nat}
    (h : replyId cfg frame = some id) : ∃ x, DecodesTo cfg frame id x := by
  simp only [replyId] at h
  split at h
  · rename_i header payload rest hread
    split at h
    · rename_i hok
      cases h
      cases hun : cfg.msgpack.unpackResponse cfg.limits.maxMsgpackNestingDepth payload with
      | error detail =>
          rw [hun] at hok
          exact nomatch hok.2
      | ok x => exact ⟨x, header, payload, rest, hread, rfl, hok.1, hun⟩
    · exact nomatch h
  · exact nomatch h

/-- The replies the server has written and the reader has not read. -/
def Link.unread (l : Link) : List ServiceServer.Reply := l.srv.replies.drop l.consumed

/-- The frame is a response to an entry of `pending`. -/
def Expected (cfg : LinkCfg) (l : Link) (frame : List UInt8) : Prop :=
  ((replyId cfg frame).bind l.sess.pending.lookup).isSome = true

instance (cfg : LinkCfg) (l : Link) (frame : List UInt8) : Decidable (Expected cfg l frame) :=
  inferInstanceAs (Decidable (_ = true))

theorem expected_iff {cfg : LinkCfg} {l : Link} {frame : List UInt8} :
    Expected cfg l frame ↔
      ∃ id j, replyId cfg frame = some id ∧ l.sess.pending.lookup id = some j := by
  rw [Expected, Option.isSome_iff_exists]
  constructor
  · rintro ⟨j, hj⟩
    obtain ⟨id, hid, hlook⟩ := Option.bind_eq_some_iff.mp hj
    exact ⟨id, j, hid, hlook⟩
  · rintro ⟨id, j, hid, hlook⟩
    exact ⟨j, Option.bind_eq_some_iff.mpr ⟨id, hid, hlook⟩⟩

/-- No response with this id is on its way. -/
def Quiet (cfg : LinkCfg) (l : Link) (id : Nat) : Prop :=
  ∀ p ∈ l.unread, replyId cfg p.frame ≠ some id

instance (cfg : LinkCfg) (l : Link) (id : Nat) : Decidable (Quiet cfg l id) :=
  inferInstanceAs (Decidable (∀ p ∈ l.unread, replyId cfg p.frame ≠ some id))

/-- The frame a task is writing. -/
def frameOfTask : ServiceServer.TaskPhase → Option (List UInt8)
  | .writing _ frame _ => some frame
  | _ => none

/-- The frame the loop is writing. -/
def frameOfLoop : ServiceServer.LoopPhase → Option (List UInt8)
  | .rejectWriting _ _ frame _ => some frame
  | _ => none

/-- The connection stays up: neither end of the stream nor `close`. -/
def Alive : Link → LinkEvent → Prop
  | _, .client (.reader (.stop _)) | _, .client .close => False
  | _, _ => True

/-- No response is late: an entry is taken out of `pending` only while no
    response to it is on its way, a response is completed only while its entry is
    there, and the ids do not run out. -/
def Punctual (cfg : LinkCfg) (l : Link) : LinkEvent → Prop
  | .client (.call i .removeExpired) | .client (.call i .removeFailed) =>
      ∀ c ∈ l.sess.calls[i]?, ∀ id ∈ c.requestId, Quiet cfg l id
  | .client (.cancel k .remove) => ∀ x ∈ l.sess.cancels[k]?, Quiet cfg l x.requestId
  | .client (.call _ .allocate) => l.sess.issuedIds.length + 1 < 2 ^ 64
  | .respond i => ∀ t ∈ l.srv.tasks[i]?, ∀ frame ∈ frameOfTask t.phase, Expected cfg l frame
  | .reject => ∀ frame ∈ frameOfLoop l.srv.loop, Expected cfg l frame
  | e => Alive l e

instance (l : Link) : (e : LinkEvent) → Decidable (Alive l e)
  | .client (.reader (.stop _)) | .client .close => inferInstanceAs (Decidable False)
  | .client (.reader (.frame _ _)) | .client (.reader (.line _)) | .client (.reader .markClosed)
  | .client (.reader .drain) | .client (.send _) | .client (.call _ _)
  | .client (.requestCancel _) | .client (.cancel _ _) | .server _ | .readHeader | .readPayload
  | .respond _ | .reject | .receive => inferInstanceAs (Decidable True)

instance (cfg : LinkCfg) (l : Link) : (e : LinkEvent) → Decidable (Punctual cfg l e)
  | .client (.call i ce) =>
      match ce with
      | .removeExpired | .removeFailed =>
          inferInstanceAs (Decidable (∀ c ∈ l.sess.calls[i]?, ∀ id ∈ c.requestId, Quiet cfg l id))
      | .allocate => inferInstanceAs (Decidable (l.sess.issuedIds.length + 1 < 2 ^ 64))
      | .checkClosed | .checkLimit | .register | .encode | .lockWriter | .write | .writeFail _ _
      | .receive | .timeout | .finishTimeout => inferInstanceAs (Decidable True)
  | .client (.cancel k ke) =>
      match ke with
      | .remove =>
          inferInstanceAs (Decidable (∀ x ∈ l.sess.cancels[k]?, Quiet cfg l x.requestId))
      | .encode | .lockWriter | .write | .writeFail _ _ => inferInstanceAs (Decidable True)
  | .client (.send r) => inferInstanceAs (Decidable (Alive l (.client (.send r))))
  | .client (.requestCancel id) =>
      inferInstanceAs (Decidable (Alive l (.client (.requestCancel id))))
  | .client (.reader re) => inferInstanceAs (Decidable (Alive l (.client (.reader re))))
  | .client .close => inferInstanceAs (Decidable (Alive l (.client .close)))
  | .respond i =>
      inferInstanceAs (Decidable
        (∀ t ∈ l.srv.tasks[i]?, ∀ frame ∈ frameOfTask t.phase, Expected cfg l frame))
  | .reject => inferInstanceAs (Decidable (∀ frame ∈ frameOfLoop l.srv.loop, Expected cfg l frame))
  | .server e => inferInstanceAs (Decidable (Alive l (.server e)))
  | .readHeader => inferInstanceAs (Decidable (Alive l .readHeader))
  | .readPayload => inferInstanceAs (Decidable (Alive l .readPayload))
  | .receive => inferInstanceAs (Decidable (Alive l .receive))

/-! ## What the session's own steps leave alone -/

/-- The reader and the flag. -/
def status (s : ServiceSession.Session) : ServiceSession.ReaderPhase × Bool := (s.reader, s.closed)

theorem status_removePending (s : ServiceSession.Session) (id : Nat) :
    status (s.removePending id) = status s :=
  ServiceSession.removePending_keeps (g := status) (fun _ _ _ => rfl) s id

theorem status_answerPending (s : ServiceSession.Session) (id : Nat)
    (result : Except IpcError ControlResponse) :
    status (s.answerPending id result) = status s :=
  ServiceSession.answerPending_keeps (g := status) (fun _ _ _ => rfl) s id result

/-- The ids whose entry a step takes out. -/
def takesOut (s : ServiceSession.Session) : ServiceSession.SessionEvent → Option Nat
  | .call i .removeExpired | .call i .removeFailed => (s.calls[i]?).bind (·.requestId)
  | .cancel k .remove => (s.cancels[k]?).map (·.requestId)
  | _ => none

/-- A step of a caller: the reader stays, and so does every entry that the step
    does not take out. -/
theorem caller_step {cfg : ServiceSession.SessionCfg} {s s' : ServiceSession.Session}
    {e : ServiceSession.SessionEvent} (hb : cfg.codec = .binary)
    (hr : ∀ re, e ≠ .reader re) (hc : e ≠ .close)
    (h : ServiceSession.step cfg s e = some s') :
    status s' = status s ∧ ∀ id j, s.pending.lookup id = some j → takesOut s e ≠ some id →
      ∃ j', s'.pending.lookup id = some j' := by
  have hkeep : s'.pending = s.pending → ∀ id j, s.pending.lookup id = some j →
      takesOut s e ≠ some id → ∃ j', s'.pending.lookup id = some j' := by
    intro heq id j hj _
    exact ⟨j, heq ▸ hj⟩
  have herase : ∀ k, takesOut s e = some k → s'.pending = s.pending.erase k →
      ∀ id j, s.pending.lookup id = some j → takesOut s e ≠ some id →
        ∃ j', s'.pending.lookup id = some j' := by
    intro k hk heq id j hj hne
    have hid : id ≠ k := by
      rintro rfl
      exact hne hk
    exact ⟨j, by rw [heq, Finmap.lookup_erase_ne hid]; exact hj⟩
  cases ServiceSession.step_move h with
  | send | requestCancel => exact ⟨rfl, hkeep rfl⟩
  | close => exact absurd rfl hc
  | reader re => exact absurd rfl (hr re)
  | cancel k x ke _ hx m =>
      cases m with
      | encodeFail | encode | lockWriter | write | writeFail => exact ⟨rfl, hkeep rfl⟩
      | forget _ hcodec =>
          rw [hb] at hcodec
          exact nomatch hcodec
      | remove =>
          refine ⟨status_answerPending _ _ _, herase x.requestId ?_
            (ServiceSession.pending_answerPending _ _ _)⟩
          rw [takesOut, hx]
          rfl
  | call i c ce _ hci m =>
      cases m with
      | refused | opened | allocate | overLimit | checkLimit | encodeFail | encode | lockWriter
      | write | writeFail | receive | timeout | finishTimeout => exact ⟨rfl, hkeep rfl⟩
      | register requestId hp hid =>
          refine ⟨rfl, ?_⟩
          intro id j hj _
          show ∃ j', (s.pending.insert requestId i).lookup id = some j'
          by_cases hk : id = requestId
          · exact ⟨i, by rw [hk, Finmap.lookup_insert]⟩
          · exact ⟨j, by rw [Finmap.lookup_insert_of_ne _ hk]; exact hj⟩
      | removeFailed requestId error hp hid =>
          refine ⟨status_removePending _ _, herase requestId ?_
            (ServiceSession.pending_removePending _ _)⟩
          rw [takesOut, hci]
          exact hid
      | removeExpired requestId hp hid =>
          refine ⟨status_removePending _ _, herase requestId ?_
            (ServiceSession.pending_removePending _ _)⟩
          rw [takesOut, hci]
          exact hid

/-! ## What a call in flight can find in its slot -/

/-- The call has neither returned nor given up its entry. -/
def waits : ServiceSession.CallPhase → Bool
  | .cancelling _ | .done _ => false
  | _ => true

/-- Nothing yet, a response, or the call's own cancellation. -/
def Fine : ServiceSession.Slot → Prop
  | .empty | .full (.ok _) | .full (.error .cancelled) => True
  | _ => False

/-- No call in flight was failed by another one's fate. -/
def Heard (s : ServiceSession.Session) : Prop :=
  ∀ (i : Nat) (c : ServiceSession.Call), s.calls[i]? = some c → waits c.phase = true → Fine c.slot

theorem Heard.setPhase {s : ServiceSession.Session} {i : Nat} {c : ServiceSession.Call}
    {p : ServiceSession.CallPhase} (h : Heard s) (hc : s.calls[i]? = some c)
    (hp : waits p = true → waits c.phase = true) : Heard (s.setPhase i p) := by
  intro j u hu hw
  obtain ⟨c', hc', ⟨rfl, rfl⟩ | ⟨-, rfl⟩⟩ := getElem?_modify_inv hu
  · rw [hc] at hc'
    cases hc'
    exact h i c hc (hp hw)
  · exact h j _ hc' hw

theorem Heard.answerPending {s : ServiceSession.Session} {id : Nat}
    {result : Except IpcError ControlResponse} (h : Heard s) (hr : Fine (.full result)) :
    Heard (s.answerPending id result) := by
  intro j u hu hw
  obtain ⟨c, hc, rfl | ⟨rfl, -⟩⟩ := ServiceSession.answerPending_calls hu
  · exact h j _ hc hw
  · obtain ⟨-, -, hphase, hslot | hslot⟩ := c.offer_same result
    · rw [hslot]
      exact h j c hc (hphase ▸ hw)
    · rw [hslot]
      exact hr

/-- A call takes out its own entry and gives up. -/
theorem Heard.giveUp {s : ServiceSession.Session} {i id : Nat} {p : ServiceSession.CallPhase}
    (h : Heard s) (hown : ∀ j, s.pending.lookup id = some j → j = i) (hp : waits p = false) :
    Heard ((s.removePending id).setPhase i p) := by
  intro j u hu hw
  obtain ⟨c, hc, ⟨rfl, rfl⟩ | ⟨hij, rfl⟩⟩ := getElem?_modify_inv hu
  · rw [show waits p = true from hw] at hp
    exact nomatch hp
  · simp only [ServiceSession.Session.removePending] at hc
    split at hc
    · exact h j _ hc hw
    · rename_i k hk
      rw [hown k hk, getElem?_modify_ne hij] at hc
      exact h j _ hc hw

/-- An entry under a call's id is the call's own. -/
theorem own_entry {cfg : ServiceSession.SessionCfg} {s : ServiceSession.Session}
    (hinv : ServiceSession.SessionInv cfg s) (hn : s.issuedIds.Nodup) {i id : Nat}
    {c : ServiceSession.Call} (hc : s.calls[i]? = some c) (hid : c.requestId = some id) :
    ∀ j, s.pending.lookup id = some j → j = i := by
  intro j hj
  obtain ⟨c', hc', hid', -⟩ := hinv.booked.pending id j hj
  exact filterMap_inj hn hc' hc hid' hid

theorem Heard.caller {cfg : ServiceSession.SessionCfg} {s s' : ServiceSession.Session}
    {e : ServiceSession.SessionEvent} (h : Heard s) (hinv : ServiceSession.SessionInv cfg s)
    (hn : s.issuedIds.Nodup) (hr : ∀ re, e ≠ .reader re) (hclose : e ≠ .close)
    (hs : ServiceSession.step cfg s e = some s') : Heard s' := by
  cases ServiceSession.step_move hs with
  | send request =>
      intro j u hu hw
      rcases getElem?_concat_inv hu with hu | ⟨-, rfl⟩
      · exact h j u hu hw
      · trivial
  | requestCancel => exact h
  | close => exact absurd rfl hclose
  | reader re => exact absurd rfl (hr re)
  | cancel k x ke _ hx m =>
      cases m with
      | encodeFail | encode | lockWriter | write | writeFail => exact h
      | forget | remove => exact h.answerPending trivial
  | call i c ce _ hc m =>
      cases m with
      | refused hp | opened hp | overLimit hp | checkLimit hp | encodeFail _ _ hp | encode _ _ hp
      | lockWriter _ hp | write _ _ hp | writeFail _ _ _ _ hp | receive _ hp | timeout hp =>
          exact h.setPhase hc (fun _ => by rw [hp]; rfl)
      | finishTimeout => exact h.setPhase hc nofun
      | allocate phase hp =>
          intro j u hu hw
          obtain ⟨c', hc', ⟨rfl, rfl⟩ | ⟨-, rfl⟩⟩ := getElem?_modify_inv hu
          · rw [hc] at hc'
            cases hc'
            exact h i c hc (by rw [hp]; rfl)
          · exact h j _ hc' hw
      | register id hp hid =>
          -- no older entry is dropped: the call's own is not in yet
          have hnone : s.pending.lookup id = none := by
            cases hlook : s.pending.lookup id with
            | none => rfl
            | some j =>
                obtain ⟨c', hc', -, hreg⟩ := hinv.booked.pending id j hlook
                rw [own_entry hinv hn hc hid j hlook, hc] at hc'
                cases hc'
                rw [hp] at hreg
                exact nomatch hreg
          have hcalls : (s.insertPending id i).calls = s.calls := by
            simp only [ServiceSession.Session.insertPending, hnone]
          have hheard : Heard (s.insertPending id i) := by
            intro j u hu
            exact h j u (hcalls ▸ hu)
          exact hheard.setPhase (hcalls ▸ hc) (fun _ => by rw [hp]; rfl)
      | removeFailed id error hp hid => exact h.giveUp (own_entry hinv hn hc hid) rfl
      | removeExpired id hp hid =>
          exact h.giveUp (p := .cancelling s.cancels.length) (own_entry hinv hn hc hid) rfl

/-! ## No two responses under one id -/

/-- Two replies under one id answer one request. -/
theorem same_request {cfg : LinkCfg} {l : Link} (h : LinkInv cfg l)
    (hids : l.sess.issuedIds.length < 2 ^ 64) {p q : ServiceServer.Reply}
    (hp : p ∈ l.srv.replies) (hq : q ∈ l.srv.replies) {id : Nat}
    (hpid : replyId cfg p.frame = some id) (hqid : replyId cfg q.frame = some id) :
    p.req = q.req := by
  obtain ⟨x, hx⟩ := replyId_decodes hpid
  obtain ⟨y, hy⟩ := replyId_decodes hqid
  obtain ⟨i, bytes, c, hsent, hc, hcid⟩ := h.reply_request hids hp hx
  obtain ⟨i', bytes', c', hsent', hc', hcid'⟩ := h.reply_request hids hq hy
  -- the id is one call's, and a call writes one request
  have hii : i = i' := filterMap_inj (h.sess.numbered.nodup hids) hc hc' hcid hcid'
  subst hii
  have honce : ((requestsSent l).filterMap ServiceSession.Outgoing.call?).Nodup :=
    h.sess.booked.once.sublist (List.filter_sublist.filterMap _)
  exact filterMap_inj honce hsent hsent' rfl rfl

/-- Every request is answered at most once, so no two replies answer the same. -/
theorem replies_nodup {cfg : LinkCfg} {l : Link} (h : LinkInv cfg l)
    (hcount : ServiceServer.Counted l.srv) : (l.srv.replies.map ServiceServer.Reply.req).Nodup := by
  refine List.nodup_iff_count_le_one.mpr ?_
  intro r
  by_cases hmem : r ∈ l.srv.replies.map ServiceServer.Reply.req
  · obtain ⟨p, hp, rfl⟩ := List.mem_map.mp hmem
    obtain ⟨q, method, hq, -⟩ := h.encoded.replies p hp
    exact hcount.answers_le_one h.tagged hq
  · rw [List.count_eq_zero_of_not_mem hmem]
    exact Nat.zero_le 1

/-- The response the reader reads next shares its id with no later one. -/
theorem next_reply_alone {cfg : LinkCfg} {l : Link} (h : LinkInv cfg l)
    (hcount : ServiceServer.Counted l.srv) (hids : l.sess.issuedIds.length < 2 ^ 64)
    {p q : ServiceServer.Reply} (hp : l.srv.replies[l.consumed]? = some p)
    (hq : q ∈ l.srv.replies.drop (l.consumed + 1)) {id : Nat}
    (hpid : replyId cfg p.frame = some id) : replyId cfg q.frame ≠ some id := by
  intro hqid
  have hsame := same_request h hids (List.mem_of_getElem? hp) (List.mem_of_mem_drop hq) hpid hqid
  have hsplit : l.srv.replies.drop l.consumed = p :: l.srv.replies.drop (l.consumed + 1) := by
    obtain ⟨hlt, hget⟩ := List.getElem?_eq_some_iff.mp hp
    rw [List.drop_eq_getElem_cons hlt, hget]
  have hnodup : ((p :: l.srv.replies.drop (l.consumed + 1)).map ServiceServer.Reply.req).Nodup := by
    rw [← hsplit]
    exact (replies_nodup h hcount).sublist ((List.drop_sublist _ _).map _)
  rw [List.map_cons, List.nodup_cons] at hnodup
  exact hnodup.1 (List.mem_map.mpr ⟨q, hq, hsame.symm⟩)

/-! ## The session survives -/

/-- Every response on its way has its entry, and the reader is at work. -/
structure OnTime (cfg : LinkCfg) (l : Link) : Prop where
  inv : LinkInv cfg l
  counted : ServiceServer.Counted l.srv
  few : l.sess.issuedIds.length < 2 ^ 64
  status : status l.sess = (.reading, false)
  heard : Heard l.sess
  expected : ∀ p ∈ l.unread, Expected cfg l p.frame

theorem onTime_start (cfg : LinkCfg) : OnTime cfg (.start cfg) where
  inv := linkInv_start cfg
  counted := ServiceServer.counted_start _
  few := Nat.two_pow_pos 64
  status := rfl
  heard := by intro i c h; exact nomatch h
  expected := by intro p h; exact nomatch h

/-- A step of the session gives out at most one id, and none without being
    asked. -/
theorem few_preserved {cfg : LinkCfg} {l : Link} {e : ServiceSession.SessionEvent}
    {sess : ServiceSession.Session} (h : OnTime cfg l)
    (hs : ServiceSession.step cfg.client l.sess e = some sess)
    (hok : ∀ i, e = .call i .allocate → l.sess.issuedIds.length + 1 < 2 ^ 64) :
    sess.issuedIds.length < 2 ^ 64 := by
  cases ServiceSession.step_ids hs with
  | keep _ hids =>
      rw [hids]
      exact h.few
  | allocate i c he hc hp hperm =>
      have hlen := (hperm (h.inv.sess.numbered.fresh i c hc (by rw [hp]; rfl))).length_eq
      rw [hlen]
      exact hok i he

/-- A caller's step. -/
theorem OnTime.caller {cfg : LinkCfg} {l : Link} {e : ServiceSession.SessionEvent}
    {sess : ServiceSession.Session} (h : OnTime cfg l)
    (hinv : LinkInv cfg { l with sess := sess })
    (hs : ServiceSession.step cfg.client l.sess e = some sess)
    (hr : ∀ re, e ≠ .reader re) (hclose : e ≠ .close)
    (hids : ∀ i, e = .call i .allocate → l.sess.issuedIds.length + 1 < 2 ^ 64)
    (hquiet : ∀ id, takesOut l.sess e = some id → Quiet cfg l id) :
    OnTime cfg { l with sess := sess } := by
  obtain ⟨hstatus, hkeep⟩ := caller_step rfl hr hclose hs
  refine ⟨hinv, h.counted, few_preserved h hs hids, hstatus.trans h.status,
    h.heard.caller h.inv.sess (h.inv.sess.numbered.nodup h.few) hr hclose hs, ?_⟩
  intro p hp
  obtain ⟨id, j, hid, hj⟩ := expected_iff.mp (h.expected p hp)
  obtain ⟨j', hj'⟩ := hkeep id j hj (fun hout => hquiet id hout p hp hid)
  exact expected_iff.mpr ⟨id, j', hid, hj'⟩

/-- A step of the server adds at most the reply whose writer moves. -/
theorem unread_source {cfg : ServiceServer.ServerCfg} {s s' : ServiceServer.ServerConn}
    {e : ServiceServer.ServerEvent} (h : ServiceServer.step cfg s e = some s') {n : Nat}
    {p : ServiceServer.Reply} (hp : p ∈ s'.replies.drop n) : p ∈ s.replies.drop n ∨
      (∃ i m t, e = .task i (.write m) ∧ s.tasks[i]? = some t ∧
        frameOfTask t.phase = some p.frame) ∨
      ∃ m, e = .loop (.rejectWrite m) ∧ frameOfLoop s.loop = some p.frame := by
  have hlast : ∀ q, s'.replies = s.replies ++ [q] → p ∈ s.replies.drop n ∨ p = q := by
    intro q hrep
    rw [hrep, List.drop_append] at hp
    rcases List.mem_append.mp hp with hold | hnew
    · exact .inl hold
    · exact .inr (List.mem_singleton.mp (List.mem_of_mem_drop hnew))
  cases ServiceServer.step_replies h with
  | keep _ _ hrep =>
      rw [hrep] at hp
      exact .inl hp
  | task i t response frame written m he ht hphase _ _ hrep =>
      split at hrep
      · rcases hlast _ hrep with hold | rfl
        · exact .inl hold
        · exact .inr (.inl ⟨i, m, t, he, ht, by rw [hphase]; rfl⟩)
      · rw [hrep] at hp
        exact .inl hp
  | loop r response frame written m he hl _ _ _ hrep =>
      split at hrep
      · rcases hlast _ hrep with hold | rfl
        · exact .inl hold
        · exact .inr (.inr ⟨m, he, by rw [hl]; rfl⟩)
      · rw [hrep] at hp
        exact .inl hp

/-- A step of the server: what it completes has its entry. -/
theorem OnTime.server {cfg : LinkCfg} {l l' : Link} {se : ServiceServer.ServerEvent}
    (h : OnTime cfg l) (hinv : LinkInv cfg l')
    (hs : ServiceServer.step cfg.server l.srv se = some l'.srv) (hsess : l'.sess = l.sess)
    (hcon : l'.consumed = l.consumed)
    (htask : ∀ i m, se = .task i (.write m) → ∀ t ∈ l.srv.tasks[i]?,
      ∀ frame ∈ frameOfTask t.phase, Expected cfg l frame)
    (hloop : ∀ m, se = .loop (.rejectWrite m) →
      ∀ frame ∈ frameOfLoop l.srv.loop, Expected cfg l frame) : OnTime cfg l' := by
  refine ⟨hinv, h.counted.preserved h.inv.tagged h.inv.encoded hs, hsess ▸ h.few,
    hsess ▸ h.status, hsess ▸ h.heard, ?_⟩
  intro p hp
  rw [Expected, hsess]
  rw [Link.unread, hcon] at hp
  rcases unread_source hs hp with hold | ⟨i, m, t, he, ht, hframe⟩ | ⟨m, he, hframe⟩
  · exact h.expected p hold
  · exact htask i m he t ht p.frame hframe
  · exact hloop m he p.frame hframe

/-- The reader reads the next response. -/
theorem OnTime.receive {cfg : LinkCfg} {l l' : Link} (h : OnTime cfg l) (hinv : LinkInv cfg l')
    (hs : step cfg l .receive = some l') : OnTime cfg l' := by
  simp only [step] at hs
  split at hs
  · cases hs
  · rename_i p hp
    have hunread : p ∈ l.unread := by
      obtain ⟨hlt, hget⟩ := List.getElem?_eq_some_iff.mp hp
      rw [Link.unread, List.drop_eq_getElem_cons hlt, hget]
      exact List.mem_cons_self
    obtain ⟨id, j, hid, hj⟩ := expected_iff.mp (h.expected p hunread)
    obtain ⟨x, header, payload, rest, hread, hhid, hflags, hun⟩ := replyId_decodes hid
    rw [hread] at hs
    obtain ⟨l₁, hl₁, rfl⟩ := Option.map_eq_some_iff.mp hs
    obtain ⟨sess, hsess, rfl⟩ := Option.map_eq_some_iff.mp hl₁
    have hreading : l.sess.reader = .reading := congrArg Prod.fst h.status
    -- the frame is a response with an entry, so the reader goes on
    have hanswer : sess = l.sess.answerPending id (.ok x) := by
      have hframe : ServiceSession.step cfg.client l.sess (.reader (.frame header payload)) =
          some (ServiceSession.onFrame cfg.client l.sess header payload) := by
        simp only [ServiceSession.step, ServiceSession.readerStep, hreading, LinkCfg.client]
      have hdeliver : ServiceSession.onFrame cfg.client l.sess header payload =
          l.sess.deliver id x := by
        simp only [ServiceSession.onFrame, LinkCfg.client, hflags, hun, hhid, Bool.not_true,
          Bool.false_eq_true, if_false]
      rw [hframe, hdeliver] at hsess
      rw [← Option.some.inj hsess]
      simp only [ServiceSession.Session.deliver, hj]
    have hfew := few_preserved h hsess (by simp)
    subst hanswer
    refine ⟨hinv, h.counted, hfew, (status_answerPending _ _ _).trans h.status,
      h.heard.answerPending trivial, ?_⟩
    intro q hq
    have hlater : q ∈ l.srv.replies.drop (l.consumed + 1) := hq
    have hmem : q ∈ l.unread := by
      rw [Link.unread]
      exact List.mem_of_mem_drop
        (List.drop_drop ▸ hlater : q ∈ (l.srv.replies.drop l.consumed).drop 1)
    obtain ⟨id', j', hid', hj'⟩ := expected_iff.mp (h.expected q hmem)
    have hne : id' ≠ id := by
      rintro rfl
      exact next_reply_alone h.inv h.counted h.few hp hlater hid hid'
    refine expected_iff.mpr ⟨id', j', hid', ?_⟩
    show (l.sess.answerPending id (.ok x)).pending.lookup id' = some j'
    rw [ServiceSession.pending_answerPending, Finmap.lookup_erase_ne hne]
    exact hj'

/-- The entries a step takes out have no response on its way. -/
theorem Punctual.quiet {cfg : LinkCfg} {l : Link} {e : ServiceSession.SessionEvent} {id : Nat}
    (h : Punctual cfg l (.client e)) (hout : takesOut l.sess e = some id) : Quiet cfg l id := by
  cases e with
  | call i ce =>
      cases ce with
      | removeExpired | removeFailed =>
          obtain ⟨c, hc, hid⟩ := Option.bind_eq_some_iff.mp hout
          exact h c hc id hid
      | checkClosed | allocate | checkLimit | register | encode | lockWriter | write | writeFail
      | receive | timeout | finishTimeout => exact nomatch hout
  | cancel k ke =>
      cases ke with
      | remove =>
          obtain ⟨x, hx, rfl⟩ := Option.map_eq_some_iff.mp hout
          exact h x hx
      | encode | lockWriter | write | writeFail => exact nomatch hout
  | send | requestCancel | reader | close => exact nomatch hout

/-- A step of the session other than a read is a caller's: the reader is in its
    loop, and the connection is up. -/
theorem OnTime.not_reader {cfg : LinkCfg} {l : Link} {e : ServiceSession.SessionEvent}
    {sess : ServiceSession.Session} (h : OnTime cfg l) (hok : Punctual cfg l (.client e))
    (hread : e.isRead = false) (hs : ServiceSession.step cfg.client l.sess e = some sess) :
    (∀ re, e ≠ .reader re) ∧ e ≠ .close := by
  have hreading : l.sess.reader = .reading := congrArg Prod.fst h.status
  refine ⟨?_, ?_⟩
  · rintro re rfl
    cases re with
    | frame | line => cases hread
    | stop => exact hok
    | markClosed | drain =>
        simp only [ServiceSession.step, ServiceSession.readerStep, hreading] at hs
        cases hs
  · rintro rfl
    exact hok

theorem OnTime.preserved {cfg : LinkCfg} {l l' : Link} {e : LinkEvent} (h : OnTime cfg l)
    (hok : Punctual cfg l e) (hs : step cfg l e = some l') : OnTime cfg l' := by
  have hinv := h.inv.preserved hs
  cases e with
  | receive => exact h.receive hinv hs
  | client ce =>
      simp only [step] at hs
      split at hs
      · cases hs
      · rename_i hread
        obtain ⟨sess, hsess, rfl⟩ := Option.map_eq_some_iff.mp hs
        obtain ⟨hr, hclose⟩ := h.not_reader hok (by simpa using hread) hsess
        refine h.caller hinv hsess hr hclose ?_ (fun id hout => hok.quiet hout)
        rintro i rfl
        exact hok
  | server se =>
      simp only [step] at hs
      split at hs
      · cases hs
      · rename_i hwire
        obtain ⟨srv, hsrv, rfl⟩ := Option.map_eq_some_iff.mp hs
        refine h.server hinv hsrv rfl rfl ?_ ?_
        · rintro i m rfl
          exact absurd rfl hwire
        · rintro m rfl
          exact absurd rfl hwire
  | readHeader =>
      simp only [step] at hs
      split at hs
      · cases hs
      · split at hs
        · cases hs
        · obtain ⟨srv, hsrv, rfl⟩ := Option.map_eq_some_iff.mp hs
          exact h.server hinv hsrv rfl rfl (by simp) (by simp)
        · obtain ⟨srv, hsrv, rfl⟩ := Option.map_eq_some_iff.mp hs
          exact h.server hinv hsrv rfl rfl (by simp) (by simp)
  | readPayload =>
      simp only [step] at hs
      split at hs
      · split at hs
        · obtain ⟨l₁, hl₁, rfl⟩ := Option.map_eq_some_iff.mp hs
          obtain ⟨srv, hsrv, rfl⟩ := Option.map_eq_some_iff.mp hl₁
          exact h.server hinv hsrv rfl rfl (by simp) (by simp)
        · obtain ⟨srv, hsrv, rfl⟩ := Option.map_eq_some_iff.mp hs
          exact h.server hinv hsrv rfl rfl (by simp) (by simp)
      · cases hs
  | respond i =>
      simp only [step] at hs
      split at hs
      · obtain ⟨srv, hsrv, rfl⟩ := Option.map_eq_some_iff.mp hs
        refine h.server hinv hsrv rfl rfl ?_ (by simp)
        rintro j m ⟨⟩
        exact hok
      · cases hs
  | reject =>
      simp only [step] at hs
      split at hs
      · obtain ⟨srv, hsrv, rfl⟩ := Option.map_eq_some_iff.mp hs
        refine h.server hinv hsrv rfl rfl (by simp) ?_
        rintro m ⟨⟩
        exact hok
      · cases hs

/-- The reader is in its loop, `closed` is not set, and a call in flight has
    nothing in its slot, its response, or its own cancellation. -/
structure Undisturbed (l : Link) : Prop where
  reading : l.sess.reader = .reading
  notClosed : l.sess.closed = false
  heard : Heard l.sess

/-- **THE SESSION SURVIVES** timeouts and cancels, in every order of steps, when
    no response is late. -/
theorem session_survives {cfg : LinkCfg} {l : Link}
    (h : Reaches (step cfg) (Punctual cfg) (.start cfg) l) : Undisturbed l := by
  have hinv : OnTime cfg l := by
    refine h.invariant (P := OnTime cfg) (onTime_start cfg) ?_
    intro s e s' hon hok hs
    exact hon.preserved hok hs
  exact ⟨congrArg Prod.fst hinv.status, congrArg Prod.snd hinv.status, hinv.heard⟩

/-! ### Two runs -/

/-- Call `i` times out and its entry is taken out; its CANCEL frame is cancel
    call `k`. -/
def expires (i k : Nat) : List LinkEvent :=
  [.client (.call i .timeout), .client (.call i .removeExpired), .client (.cancel k .encode),
    .client (.cancel k .lockWriter), .client (.cancel k .write), .client (.cancel k .remove),
    .client (.call i .finishTimeout)]

/-- The server reads a CANCEL frame. -/
def heeds : List LinkEvent := [.readHeader, .readPayload, .server (.loop .cancelPending)]

/-- Call 0 times out before the server answers it; call 1 is answered. -/
def punctualState : Link :=
  (run (step sampleCfg) (Punctual sampleCfg) (.start sampleCfg)
    (sends 0 ++ sends 1 ++ accepts ++ accepts ++ expires 0 0 ++ heeds ++
      answers 1 (.okValue (.bool true)) ++ [.receive, .client (.call 1 .receive)])).getD
    (.start sampleCfg)

/-- Call 0 times out while its response is on its way. -/
def lateState : Link :=
  (run (step sampleCfg) Alive (.start sampleCfg)
    (sends 0 ++ sends 1 ++ accepts ++ accepts ++ answers 0 .emptyOk ++ expires 0 0 ++
      [.receive, .client (.reader .markClosed), .client (.reader .drain),
        .client (.call 1 .receive)])).getD
    (.start sampleCfg)

theorem session_survives_sample :
    Reaches (step sampleCfg) (Punctual sampleCfg) (.start sampleCfg) punctualState ∧
      Undisturbed punctualState ∧
      (punctualState.sess.calls[0]?).map (·.phase.isDone) = some true ∧
      punctualState.deliveries = [(0, 1)] :=
  ⟨reaches_getD (by decide), session_survives (reaches_getD (by decide)), by decide, by decide⟩

/-- One call's timeout takes the session down: its response comes late, the
    reader stops on it, and the other call in flight is failed. -/
theorem late_response_closes_session :
    Reaches (step sampleCfg) Alive (.start sampleCfg) lateState ∧
      lateState.sess.closed = true ∧ ¬ Undisturbed lateState ∧
      ∃ c, lateState.sess.calls[1]? = some c ∧
        c.phase = .done (.error (.protocol (IpcError.message (.lateResponse 1)))) := by
  refine ⟨reaches_getD (by decide), by decide, ?_, _, rfl, rfl⟩
  intro h
  exact absurd h.notClosed (by decide)

end ServiceLink
