import MutsukiServiceHost.ServiceSessionProofs

/-! # Who is who in a session — calls, ids and what was written

    The bookkeeping of a `ControlSession` that holds for either codec: where
    each call of the state after a step comes from, what a step does to
    `pending` and to the output, and from that, for every run, that an entry of
    `pending` and a written request belong to the call whose id they carry
    (`Booked`) and that ids are not reused within 2^64 sends (`Numbered`). -/

namespace ServiceSession

open ServiceControl ServiceFrame ListUpdate Transition

/-! ## The life of one call -/

/-- The phases a call goes through by its own steps. -/
inductive CallStep (cfg : SessionCfg) (c : Call) : CallEvent → CallPhase → Prop where
  | refused : c.phase = .start → CallStep cfg c .checkClosed (.done (.error .closed))
  | opened : c.phase = .start → CallStep cfg c .checkClosed .opened
  | allocated : c.phase = .opened → CallStep cfg c .allocate .allocated
  | invalid : c.phase = .opened → CallStep cfg c .allocate (.done (.error .invalidRequestId))
  | overLimit (error : IpcError) : c.phase = .allocated →
      CallStep cfg c .checkLimit (.done (.error error))
  | admitted : c.phase = .allocated → CallStep cfg c .checkLimit .admitted
  | registered : c.phase = .admitted → CallStep cfg c .register .registered
  | encodeFail (error : IpcError) : c.phase = .registered →
      CallStep cfg c .encode (.done (.error error))
  | encoded (requestId : Nat) (bytes : List UInt8) : c.phase = .registered →
      c.requestId = some requestId → cfg.encodeRequest requestId c.request = .ok bytes →
      CallStep cfg c .encode (.encoded bytes)
  | writing (bytes : List UInt8) : c.phase = .encoded bytes →
      CallStep cfg c .lockWriter (.writing bytes)
  | awaiting (bytes : List UInt8) : c.phase = .writing bytes → CallStep cfg c .write .awaiting
  | failed (bytes : List UInt8) (sent : Bool) (detail : String) : c.phase = .writing bytes →
      CallStep cfg c (.writeFail sent detail) (.failed (.io detail))
  | gaveUp (error : IpcError) : c.phase = .failed error →
      CallStep cfg c .removeFailed (.done (.error error))
  | received (result : Except IpcError ControlResponse) : c.phase = .awaiting →
      (c.slot = .full result ∨ (c.slot = .closed ∧ result = .error .closed)) →
      CallStep cfg c .receive (.done result)
  | expired : c.phase = .awaiting → CallStep cfg c .timeout .expired
  | cancelling (k : Nat) : c.phase = .expired → CallStep cfg c .removeExpired (.cancelling k)
  | timedOut (k : Nat) : c.phase = .cancelling k →
      CallStep cfg c .finishTimeout (.done (.error .timeout))

/-- What another party's step does to the slot of call `j`. -/
inductive SlotStep (cfg : SessionCfg) (s : Session) (e : SessionEvent) (j : Nat) (c u : Call) :
    Prop where
  | kept : u.slot = c.slot → SlotStep cfg s e j c u
  | hungUp : u.slot = .closed → SlotStep cfg s e j c u
  | failed (error : IpcError) : u.slot = .full (.error error) → SlotStep cfg s e j c u
  | answered (re : ReaderEvent) (requestId : Nat) (response : ControlResponse) :
      e = .reader re → Decoded cfg s re requestId response →
      s.pending.lookup requestId = some j → u.slot = .full (.ok response) →
      SlotStep cfg s e j c u

/-- Where call `j` of the state after a step comes from. -/
inductive CallOrigin (cfg : SessionCfg) (s : Session) (e : SessionEvent) (j : Nat) (u : Call) :
    Prop where
  | same (c : Call) : (∀ ce, e ≠ .call j ce) → s.calls[j]? = some c → u.request = c.request →
      u.requestId = c.requestId → u.phase = c.phase → SlotStep cfg s e j c u →
      CallOrigin cfg s e j u
  | moved (c : Call) (ce : CallEvent) : e = .call j ce → s.calls[j]? = some c →
      u.request = c.request →
      ((ce = .allocate ∧ u.requestId = some s.nextId) ∨
        (ce ≠ .allocate ∧ u.requestId = c.requestId)) →
      CallStep cfg c ce u.phase → (u.slot = c.slot ∨ u.slot = .closed) → CallOrigin cfg s e j u
  | fresh : j = s.calls.length → e = .send u.request → u.requestId = none → u.phase = .start →
      u.slot = .empty → CallOrigin cfg s e j u

theorem Call.hangUp_same (c : Call) : c.hangUp.request = c.request ∧
    c.hangUp.requestId = c.requestId ∧ c.hangUp.phase = c.phase ∧
    (c.hangUp.slot = c.slot ∨ c.hangUp.slot = .closed) := by
  simp only [Call.hangUp]
  split
  · exact ⟨rfl, rfl, rfl, .inr rfl⟩
  · exact ⟨rfl, rfl, rfl, .inl rfl⟩

theorem Call.offer_same (c : Call) (result : Except IpcError ControlResponse) :
    (c.offer result).request = c.request ∧ (c.offer result).requestId = c.requestId ∧
      (c.offer result).phase = c.phase ∧
      ((c.offer result).slot = c.slot ∨ (c.offer result).slot = .full result) := by
  simp only [Call.offer]
  split
  · exact ⟨rfl, rfl, rfl, .inr rfl⟩
  · exact ⟨rfl, rfl, rfl, .inl rfl⟩

/-- A call whose entry is removed, displaced or left alone. -/
theorem removePending_calls {s : Session} {requestId j : Nat} {u : Call}
    (hu : (s.removePending requestId).calls[j]? = some u) :
    ∃ c, s.calls[j]? = some c ∧ (u = c ∨ u = c.hangUp) := by
  simp only [Session.removePending] at hu
  split at hu
  · exact ⟨u, hu, .inl rfl⟩
  · obtain ⟨c, hc, ⟨-, rfl⟩ | ⟨-, rfl⟩⟩ := getElem?_modify_inv hu
    · exact ⟨c, hc, .inr rfl⟩
    · exact ⟨_, hc, .inl rfl⟩

theorem insertPending_calls {s : Session} {requestId i j : Nat} {u : Call}
    (hu : (s.insertPending requestId i).calls[j]? = some u) :
    ∃ c, s.calls[j]? = some c ∧ (u = c ∨ u = c.hangUp) := by
  unfold Session.insertPending at hu
  dsimp only at hu
  split at hu
  · exact ⟨u, hu, .inl rfl⟩
  · obtain ⟨c, hc, ⟨-, rfl⟩ | ⟨-, rfl⟩⟩ := getElem?_modify_inv hu
    · exact ⟨c, hc, .inr rfl⟩
    · exact ⟨_, hc, .inl rfl⟩

/-- A call that is sent a message, or left alone. -/
theorem answerPending_calls {s : Session} {requestId j : Nat} {u : Call}
    {result : Except IpcError ControlResponse}
    (hu : (s.answerPending requestId result).calls[j]? = some u) :
    ∃ c, s.calls[j]? = some c ∧
      (u = c ∨ (u = c.offer result ∧ s.pending.lookup requestId = some j)) := by
  simp only [Session.answerPending] at hu
  split at hu
  · exact ⟨u, hu, .inl rfl⟩
  · rename_i k hk
    obtain ⟨c, hc, ⟨rfl, rfl⟩ | ⟨-, rfl⟩⟩ := getElem?_modify_inv hu
    · exact ⟨c, hc, .inr ⟨rfl, hk⟩⟩
    · exact ⟨_, hc, .inl rfl⟩

theorem drainPending_calls {s : Session} {error : IpcError} {j : Nat} {u : Call}
    (hu : (s.drainPending error).calls[j]? = some u) :
    ∃ c, s.calls[j]? = some c ∧ (u = c ∨ u = c.offer (.error error)) := by
  unfold Session.drainPending at hu
  dsimp only at hu
  rw [List.getElem?_mapIdx] at hu
  obtain ⟨c, hc, rfl⟩ := Option.map_eq_some_iff.mp hu
  refine ⟨c, hc, ?_⟩
  split
  · exact .inr rfl
  · exact .inl rfl

/-- A call left alone by somebody else's step. -/
theorem CallOrigin.refl {cfg : SessionCfg} {s : Session} {e : SessionEvent} {j : Nat} {u : Call}
    (he : ∀ ce, e ≠ .call j ce) (h : s.calls[j]? = some u) : CallOrigin cfg s e j u :=
  .same u he h rfl rfl rfl (.kept rfl)

/-- A call whose entry somebody else dropped. -/
theorem origin_hangUp {cfg : SessionCfg} {s : Session} {e : SessionEvent} {j : Nat} {c u : Call}
    (he : ∀ ce, e ≠ .call j ce) (hc : s.calls[j]? = some c) (hu : u = c ∨ u = c.hangUp) :
    CallOrigin cfg s e j u := by
  rcases hu with rfl | rfl
  · exact .refl he hc
  · obtain ⟨h₁, h₂, h₃, h₄ | h₄⟩ := c.hangUp_same
    · exact .same c he hc h₁ h₂ h₃ (.kept h₄)
    · exact .same c he hc h₁ h₂ h₃ (.hungUp h₄)

/-- A call that was sent an error. -/
theorem origin_failed {cfg : SessionCfg} {s : Session} {e : SessionEvent} {j : Nat} {c u : Call}
    {error : IpcError} (he : ∀ ce, e ≠ .call j ce) (hc : s.calls[j]? = some c)
    (hu : u = c ∨ u = c.offer (.error error)) : CallOrigin cfg s e j u := by
  rcases hu with rfl | rfl
  · exact .refl he hc
  · obtain ⟨h₁, h₂, h₃, h₄ | h₄⟩ := c.offer_same (.error error)
    · exact .same c he hc h₁ h₂ h₃ (.kept h₄)
    · exact .same c he hc h₁ h₂ h₃ (.failed error h₄)

/-- Call `i` moves to phase `p`, possibly with entries dropped on the way. -/
theorem origin_setPhase {cfg : SessionCfg} {s s₁ : Session} {i j : Nat} {c u : Call}
    {ce : CallEvent} {p : CallPhase} (hc : s.calls[i]? = some c) (hp : CallStep cfg c ce p)
    (hne : ce ≠ .allocate)
    (hs₁ : ∀ {k : Nat} {v : Call}, s₁.calls[k]? = some v →
      ∃ c : Call, s.calls[k]? = some c ∧ (v = c ∨ v = c.hangUp))
    (hu : (s₁.setPhase i p).calls[j]? = some u) : CallOrigin cfg s (.call i ce) j u := by
  obtain ⟨u₁, hu₁, hcase⟩ := getElem?_modify_inv hu
  obtain ⟨u₀, hu₀, hkeep⟩ := hs₁ hu₁
  rcases hcase with ⟨rfl, rfl⟩ | ⟨hij, rfl⟩
  · rw [hc] at hu₀
    cases hu₀
    have hsame : u₁.request = c.request ∧ u₁.requestId = c.requestId ∧
        (u₁.slot = c.slot ∨ u₁.slot = .closed) := by
      rcases hkeep with rfl | rfl
      · exact ⟨rfl, rfl, .inl rfl⟩
      · obtain ⟨h₁, h₂, -, h₄⟩ := c.hangUp_same
        exact ⟨h₁, h₂, h₄⟩
    exact .moved c ce rfl hc hsame.1 (.inr ⟨hne, hsame.2.1⟩) hp hsame.2.2
  · exact origin_hangUp (by rintro ce' ⟨⟩; exact hij rfl) hu₀ hkeep

theorem callMove_origin {cfg : SessionCfg} {s s' : Session} {i : Nat} {c : Call} {ce : CallEvent}
    (hc : s.calls[i]? = some c) (m : CallMove cfg s i c ce s') {j : Nat} {u : Call}
    (hu : s'.calls[j]? = some u) : CallOrigin cfg s (.call i ce) j u := by
  -- a step that touches no entry
  have hid : ∀ {k : Nat} {v : Call}, s.calls[k]? = some v →
      ∃ c : Call, s.calls[k]? = some c ∧ (v = c ∨ v = c.hangUp) :=
    fun hv => ⟨_, hv, .inl rfl⟩
  cases m with
  | refused hp => exact origin_setPhase hc (.refused hp) nofun hid hu
  | opened hp => exact origin_setPhase hc (.opened hp) nofun hid hu
  | allocate phase hp hphase =>
      obtain ⟨u₀, hu₀, ⟨rfl, rfl⟩ | ⟨hij, rfl⟩⟩ := getElem?_modify_inv hu
      · rw [hc] at hu₀
        cases hu₀
        refine .moved c .allocate rfl hc rfl (.inl ⟨rfl, rfl⟩) ?_ (.inl rfl)
        rcases hphase with rfl | rfl
        · exact .allocated hp
        · exact .invalid hp
      · exact .refl (by rintro ce' ⟨⟩; exact hij rfl) hu₀
  | overLimit hp => exact origin_setPhase hc (.overLimit _ hp) nofun hid hu
  | checkLimit hp => exact origin_setPhase hc (.admitted hp) nofun hid hu
  | register requestId hp =>
      exact origin_setPhase hc (.registered hp) nofun insertPending_calls hu
  | encodeFail requestId error hp =>
      exact origin_setPhase hc (.encodeFail error hp) nofun hid hu
  | encode requestId bytes hp hrid _ he =>
      exact origin_setPhase hc (.encoded requestId bytes hp hrid he) nofun hid hu
  | lockWriter bytes hp => exact origin_setPhase hc (.writing bytes hp) nofun hid hu
  | write requestId bytes hp => exact origin_setPhase hc (.awaiting bytes hp) nofun hid hu
  | writeFail requestId bytes sent detail hp =>
      exact origin_setPhase hc (.failed bytes sent detail hp) nofun hid hu
  | removeFailed requestId error hp =>
      exact origin_setPhase hc (.gaveUp error hp) nofun removePending_calls hu
  | receive result hp hslot =>
      exact origin_setPhase hc (.received result hp hslot) nofun hid hu
  | timeout hp => exact origin_setPhase hc (.expired hp) nofun hid hu
  | removeExpired requestId hp =>
      exact origin_setPhase hc (.cancelling _ hp) nofun removePending_calls hu
  | finishTimeout k result hp => exact origin_setPhase hc (.timedOut k hp) nofun hid hu

theorem cancelMove_origin {cfg : SessionCfg} {s s' : Session} {k : Nat} {x : Cancel}
    {ke : CancelEvent} (m : CancelMove cfg s k x ke s') {j : Nat} {u : Call}
    (hu : s'.calls[j]? = some u) : CallOrigin cfg s (.cancel k ke) j u := by
  have he : ∀ ce, SessionEvent.cancel k ke ≠ .call j ce := fun ce => nofun
  cases m with
  | encodeFail | encode | lockWriter | write | writeFail => exact .refl he hu
  | forget | remove =>
      obtain ⟨c, hc, hcase⟩ := answerPending_calls hu
      exact origin_failed he hc (hcase.imp_right And.left)

theorem readerMove_origin {cfg : SessionCfg} {s s' : Session} {re : ReaderEvent}
    (m : ReaderMove cfg s re s') {j : Nat} {u : Call} (hu : s'.calls[j]? = some u) :
    CallOrigin cfg s (.reader re) j u := by
  have he : ∀ ce, SessionEvent.reader re ≠ .call j ce := fun ce => nofun
  cases m with
  | stop | markClosed => exact .refl he hu
  | drain =>
      obtain ⟨c, hc, hcase⟩ := drainPending_calls hu
      exact origin_failed he hc hcase
  | answer _ requestId k response _ hd hk =>
      obtain ⟨c, hc, rfl | ⟨rfl, hj⟩⟩ := answerPending_calls hu
      · exact .refl he hc
      · obtain ⟨h₁, h₂, h₃, h₄ | h₄⟩ := c.offer_same (.ok response)
        · exact .same c he hc h₁ h₂ h₃ (.kept h₄)
        · exact .same c he hc h₁ h₂ h₃ (.answered re requestId response rfl hd hj h₄)

/-- **EVERY STEP IS A LISTED MOVE**: a new call, a move of one call, of one
    cancel or of the reader, or the end of the session. -/
inductive Move (cfg : SessionCfg) (s : Session) : SessionEvent → Session → Prop where
  | send (request : ControlRequest) :
      Move cfg s (.send request)
        { s with calls := s.calls ++ [⟨request, none, .start, .empty⟩] }
  | call (i : Nat) (c : Call) (ce : CallEvent) (s' : Session) : s.calls[i]? = some c →
      CallMove cfg s i c ce s' → Move cfg s (.call i ce) s'
  | requestCancel (requestId : Nat) :
      Move cfg s (.requestCancel requestId) { s with cancels := s.cancels ++ [⟨requestId, .start⟩] }
  | cancel (k : Nat) (x : Cancel) (ke : CancelEvent) (s' : Session) : s.cancels[k]? = some x →
      CancelMove cfg s k x ke s' → Move cfg s (.cancel k ke) s'
  | reader (re : ReaderEvent) (s' : Session) : ReaderMove cfg s re s' →
      Move cfg s (.reader re) s'
  | close : s.quiescent = true →
      Move cfg s .close { s.drainPending .closed with closed := true, reader := .finished }

theorem step_move {cfg : SessionCfg} {s s' : Session} {e : SessionEvent}
    (h : step cfg s e = some s') : Move cfg s e s' := by
  cases e with
  | send request =>
      cases h
      exact .send request
  | call i ce =>
      simp only [step] at h
      split at h
      · exact nomatch h
      · rename_i c hc
        exact .call i c ce s' hc (callStep_move h)
  | requestCancel requestId =>
      cases h
      exact .requestCancel requestId
  | cancel k ke =>
      simp only [step] at h
      split at h
      · exact nomatch h
      · rename_i x hx
        exact .cancel k x ke s' hx (cancelStep_move h)
  | reader re => exact .reader re s' (readerStep_move h)
  | close =>
      simp only [step] at h
      split at h
      · rename_i hq
        cases h
        exact .close hq
      · exact nomatch h

/-- **EVERY CALL AFTER A STEP HAS AN ORIGIN.** -/
theorem step_origin {cfg : SessionCfg} {s s' : Session} {e : SessionEvent}
    (h : step cfg s e = some s') {j : Nat} {u : Call} (hu : s'.calls[j]? = some u) :
    CallOrigin cfg s e j u := by
  cases step_move h with
  | send request =>
      rcases getElem?_concat_inv hu with hu | ⟨hj, rfl⟩
      · exact .refl (fun ce => nofun) hu
      · exact .fresh hj rfl rfl rfl rfl
  | call i c ce _ hc m => exact callMove_origin hc m hu
  | requestCancel => exact .refl (fun ce => nofun) hu
  | cancel k x ke _ hx m => exact cancelMove_origin m hu
  | reader re _ m => exact readerMove_origin m hu
  | close =>
      obtain ⟨c, hc, hcase⟩ := drainPending_calls hu
      exact origin_failed (fun ce => nofun) hc hcase

/-! ## Ids -/

/-- The ids given out so far. -/
def Session.issuedIds (s : Session) : List Nat := s.calls.filterMap Call.requestId

/-- What a step does to the ids. -/
inductive IdMove (s : Session) (e : SessionEvent) (s' : Session) : Prop where
  | keep : (∀ i, e ≠ .call i .allocate) → s'.issuedIds = s.issuedIds → s'.nextId = s.nextId →
      IdMove s e s'
  | allocate (i : Nat) (c : Call) : e = .call i .allocate → s.calls[i]? = some c →
      c.phase = .opened → (c.requestId = none → s'.issuedIds.Perm (s.nextId :: s.issuedIds)) →
      s'.nextId = (s.nextId + 1) % 2 ^ 64 → IdMove s e s'

/-- The ids depend on the calls' ids alone. -/
theorem issuedIds_congr {s s' : Session}
    (h : s'.calls.map Call.requestId = s.calls.map Call.requestId) :
    s'.issuedIds = s.issuedIds := by
  have hmap : ∀ k : List Call,
      k.filterMap Call.requestId = (k.map Call.requestId).filterMap id := by
    intro k
    rw [List.filterMap_map]
    rfl
  simp only [Session.issuedIds]
  rw [hmap, hmap, h]

/-- A projection of a call that does not read its slot: messages to a call and
    dropped senders leave it alone. -/
def SlotFree {β : Type} (g : Call → β) : Prop :=
  ∀ (c : Call) (slot : Slot), g { c with slot := slot } = g c

section SlotFree

variable {β : Type} {g : Call → β}

theorem SlotFree.hangUp (hg : SlotFree g) (c : Call) : g c.hangUp = g c := by
  simp only [Call.hangUp]
  split
  · exact hg c _
  · rfl

theorem SlotFree.offer (hg : SlotFree g) (c : Call) (result : Except IpcError ControlResponse) :
    g (c.offer result) = g c := by
  simp only [Call.offer]
  split
  · exact hg c _
  · rfl

theorem SlotFree.removePending (hg : SlotFree g) (s : Session) (requestId : Nat) :
    (s.removePending requestId).calls.map g = s.calls.map g := by
  simp only [Session.removePending]
  split
  · rfl
  · exact map_modify hg.hangUp

theorem SlotFree.insertPending (hg : SlotFree g) (s : Session) (requestId i : Nat) :
    (s.insertPending requestId i).calls.map g = s.calls.map g := by
  unfold Session.insertPending
  dsimp only
  split
  · rfl
  · exact map_modify hg.hangUp

theorem SlotFree.answerPending (hg : SlotFree g) (s : Session) (requestId : Nat)
    (result : Except IpcError ControlResponse) :
    (s.answerPending requestId result).calls.map g = s.calls.map g := by
  simp only [Session.answerPending]
  split
  · rfl
  · exact map_modify fun c => hg.offer c result

theorem SlotFree.drainPending (hg : SlotFree g) (s : Session) (error : IpcError) :
    (s.drainPending error).calls.map g = s.calls.map g := by
  refine map_mapIdx ?_
  intro j c
  split
  · exact hg.offer c _
  · rfl

end SlotFree

theorem slotFree_requestId : SlotFree Call.requestId := fun _ _ => rfl

theorem requestIds_setPhase (s : Session) (i : Nat) (p : CallPhase) :
    (s.setPhase i p).calls.map Call.requestId = s.calls.map Call.requestId :=
  map_modify fun _ => rfl

/-- What reads neither the entries nor the calls is left alone when an entry
    goes. -/
theorem removePending_keeps {β : Type} {g : Session → β}
    (hg : ∀ (s : Session) pending calls, g { s with pending := pending, calls := calls } = g s)
    (s : Session) (requestId : Nat) : g (s.removePending requestId) = g s := by
  simp only [Session.removePending]
  split
  · rfl
  · exact hg _ _ _

theorem answerPending_keeps {β : Type} {g : Session → β}
    (hg : ∀ (s : Session) pending calls, g { s with pending := pending, calls := calls } = g s)
    (s : Session) (requestId : Nat) (result : Except IpcError ControlResponse) :
    g (s.answerPending requestId result) = g s := by
  simp only [Session.answerPending]
  split
  · rfl
  · exact hg _ _ _

theorem nextId_removePending (s : Session) (requestId : Nat) :
    (s.removePending requestId).nextId = s.nextId :=
  removePending_keeps (g := Session.nextId) (fun _ _ _ => rfl) s requestId

theorem nextId_answerPending (s : Session) (requestId : Nat)
    (result : Except IpcError ControlResponse) :
    (s.answerPending requestId result).nextId = s.nextId :=
  answerPending_keeps (g := Session.nextId) (fun _ _ _ => rfl) s requestId result

theorem step_ids {cfg : SessionCfg} {s s' : Session} {e : SessionEvent}
    (h : step cfg s e = some s') : IdMove s e s' := by
  have hset : ∀ i p, (s.setPhase i p).issuedIds = s.issuedIds :=
    fun i p => issuedIds_congr (requestIds_setPhase s i p)
  cases step_move h with
  | send request =>
      refine .keep nofun ?_ rfl
      simp [Session.issuedIds]
  | requestCancel => exact .keep nofun rfl rfl
  | close => exact .keep nofun (issuedIds_congr (slotFree_requestId.drainPending _ _)) rfl
  | reader re _ m =>
      cases m with
      | stop | markClosed => exact .keep nofun rfl rfl
      | drain => exact .keep nofun (issuedIds_congr (slotFree_requestId.drainPending _ _)) rfl
      | answer =>
          exact .keep nofun (issuedIds_congr (slotFree_requestId.answerPending _ _ _))
            (nextId_answerPending _ _ _)
  | cancel k x ke _ hx m =>
      cases m with
      | encodeFail | encode | lockWriter | write | writeFail => exact .keep nofun rfl rfl
      | forget | remove =>
          exact .keep nofun (issuedIds_congr (slotFree_requestId.answerPending _ _ _))
            (nextId_answerPending _ _ _)
  | call i c ce _ hc m =>
      cases m with
      | allocate phase hp =>
          refine .allocate i c rfl hc hp ?_ rfl
          intro hnone
          exact filterMap_modify_perm hc hnone rfl
      | refused | opened | overLimit | checkLimit | encodeFail | encode | lockWriter | write |
          writeFail
      | receive | timeout | finishTimeout => exact .keep nofun (hset _ _) rfl
      | register requestId =>
          refine .keep nofun (issuedIds_congr ?_) rfl
          exact (requestIds_setPhase _ _ _).trans (slotFree_requestId.insertPending _ _ _)
      | removeFailed requestId | removeExpired requestId =>
          refine .keep nofun (issuedIds_congr ?_) (nextId_removePending _ _)
          exact (requestIds_setPhase _ _ _).trans (slotFree_requestId.removePending _ _)

/-- The call has no id yet. -/
def CallPhase.unnumbered : CallPhase → Bool
  | .start | .opened => true
  | _ => false

/-- Ids are numbered from one, and given once while fewer than 2^64 are out. -/
structure Numbered (s : Session) : Prop where
  fresh : ∀ (i : Nat) (c : Call), s.calls[i]? = some c → c.phase.unnumbered = true →
    c.requestId = none
  next : s.issuedIds.length < 2 ^ 64 → s.nextId = (s.issuedIds.length + 1) % 2 ^ 64
  range : s.issuedIds.length < 2 ^ 64 → ∀ id ∈ s.issuedIds, 0 < id ∧ id ≤ s.issuedIds.length
  nodup : s.issuedIds.length < 2 ^ 64 → s.issuedIds.Nodup

theorem numbered_fromStream : Numbered .fromStream where
  fresh := by intro i c h; exact nomatch h
  next := fun _ => rfl
  range := by intro _ id h; exact nomatch h
  nodup := fun _ => List.nodup_nil

theorem CallStep.unnumbered {cfg : SessionCfg} {c : Call} {ce : CallEvent} {p : CallPhase}
    (h : CallStep cfg c ce p) (hp : p.unnumbered = true) :
    c.phase.unnumbered = true ∧ ce ≠ .allocate := by
  cases h with
  | opened h =>
      rw [h]
      exact ⟨rfl, nofun⟩
  | refused | allocated | invalid | overLimit | admitted | registered | encodeFail | encoded
  | writing | awaiting | failed | gaveUp | received | expired | cancelling | timedOut =>
      exact nomatch hp

theorem Numbered.preserved {cfg : SessionCfg} {s s' : Session} {e : SessionEvent}
    (h : Numbered s) (hs : step cfg s e = some s') : Numbered s' := by
  have hfresh : ∀ (i : Nat) (c : Call), s'.calls[i]? = some c → c.phase.unnumbered = true →
      c.requestId = none := by
    intro j u hu hun
    cases step_origin hs hu with
    | same c _ hc _ hid hp _ =>
        rw [hid]
        exact h.fresh j c hc (hp ▸ hun)
    | moved c ce _ hc _ hid hp _ =>
        obtain ⟨hcun, hne⟩ := hp.unnumbered hun
        rcases hid with ⟨hal, -⟩ | ⟨-, hid⟩
        · exact absurd hal hne
        · rw [hid]
          exact h.fresh j c hc hcun
    | fresh _ _ hid _ _ => exact hid
  cases step_ids hs with
  | keep _ hids hnext =>
      refine ⟨hfresh, ?_, ?_, ?_⟩
      · rw [hids, hnext]
        exact h.next
      · rw [hids]
        exact h.range
      · rw [hids]
        exact h.nodup
  | allocate i c _ hc hp hperm hnext =>
      have hperm := hperm (h.fresh i c hc (by rw [hp]; rfl))
      have hlen : s'.issuedIds.length = s.issuedIds.length + 1 := hperm.length_eq
      -- one id fewer was out before, so the counter had not wrapped
      have hold : s.issuedIds.length + 1 < 2 ^ 64 → s.nextId = s.issuedIds.length + 1 := by
        intro hlt
        rw [h.next (by omega), Nat.mod_eq_of_lt hlt]
      refine ⟨hfresh, ?_, ?_, ?_⟩
      · intro hlt
        rw [hlen] at hlt ⊢
        rw [hnext, hold hlt]
      · intro hlt id hid
        rw [hlen] at hlt ⊢
        rcases List.mem_cons.mp (hperm.mem_iff.mp hid) with rfl | hid
        · rw [hold hlt]
          omega
        · have := h.range (by omega) id hid
          omega
      · intro hlt
        rw [hlen] at hlt
        rw [hperm.nodup_iff, List.nodup_cons]
        refine ⟨?_, h.nodup (by omega)⟩
        intro hin
        have := h.range (by omega) _ hin
        rw [hold hlt] at this
        omega

/-! ## Entries and written requests -/

/-- What a step does to `pending`. -/
inductive PendingMove (s : Session) (e : SessionEvent) (s' : Session) : Prop where
  | keep : s'.pending = s.pending → PendingMove s e s'
  | insert (i requestId : Nat) (c : Call) : e = .call i .register → s.calls[i]? = some c →
      c.phase = .admitted → c.requestId = some requestId →
      s'.pending = s.pending.insert requestId i → PendingMove s e s'
  | erase (requestId : Nat) : s'.pending = s.pending.erase requestId → PendingMove s e s'
  | clear : s'.pending = ∅ → PendingMove s e s'

theorem pending_removePending (s : Session) (requestId : Nat) :
    (s.removePending requestId).pending = s.pending.erase requestId := by
  simp only [Session.removePending]
  split
  · rename_i hnone
    exact (erase_absent hnone).symm
  · rfl

theorem pending_answerPending (s : Session) (requestId : Nat)
    (result : Except IpcError ControlResponse) :
    (s.answerPending requestId result).pending = s.pending.erase requestId := by
  simp only [Session.answerPending]
  split
  · rename_i hnone
    exact (erase_absent hnone).symm
  · rfl

theorem step_pending {cfg : SessionCfg} {s s' : Session} {e : SessionEvent}
    (h : step cfg s e = some s') : PendingMove s e s' := by
  cases step_move h with
  | send | requestCancel => exact .keep rfl
  | close => exact .clear rfl
  | reader re _ m =>
      cases m with
      | stop | markClosed => exact .keep rfl
      | drain => exact .clear rfl
      | answer _ requestId => exact .erase requestId (pending_answerPending _ _ _)
  | cancel k x ke _ hx m =>
      cases m with
      | encodeFail | encode | lockWriter | write | writeFail => exact .keep rfl
      | forget | remove => exact .erase x.requestId (pending_answerPending _ _ _)
  | call i c ce _ hc m =>
      cases m with
      | refused | opened | allocate | overLimit | checkLimit | encodeFail | encode |
          lockWriter | write
      | writeFail | receive | timeout | finishTimeout => exact .keep rfl
      | register requestId hp hid => exact .insert i requestId c rfl hc hp hid rfl
      | removeFailed requestId | removeExpired requestId =>
          exact .erase requestId (pending_removePending _ _)

/-- An entry after a step is an old one or the one just registered. -/
theorem PendingMove.lookup_inv {s s' : Session} {e : SessionEvent} (m : PendingMove s e s')
    {id j : Nat} (h : s'.pending.lookup id = some j) : s.pending.lookup id = some j ∨
      ∃ c, e = .call j .register ∧ s.calls[j]? = some c ∧ c.phase = .admitted ∧
        c.requestId = some id := by
  cases m with
  | keep hp => exact .inl (hp ▸ h)
  | erase k hp =>
      rw [hp] at h
      exact .inl (lookup_erase_inv h).1
  | clear hp =>
      rw [hp] at h
      exact nomatch h
  | insert i requestId c he hc hph hid hp =>
      rw [hp] at h
      by_cases hk : id = requestId
      · subst hk
        rw [Finmap.lookup_insert] at h
        cases h
        exact .inr ⟨c, he, hc, hph, hid⟩
      · rw [Finmap.lookup_insert_of_ne _ hk] at h
        exact .inl h

/-- What a step does to the output. -/
inductive OutMove (s : Session) (e : SessionEvent) (s' : Session) : Prop where
  | keep : s'.outbox = s.outbox → OutMove s e s'
  | request (i requestId : Nat) (c : Call) (bytes : List UInt8) (ce : CallEvent) :
      e = .call i ce → (ce = .write ∨ ∃ detail, ce = .writeFail true detail) →
      s.calls[i]? = some c → c.phase = .writing bytes → c.requestId = some requestId →
      s'.outbox = s.outbox ++ [.request i requestId bytes] → OutMove s e s'
  | cancel (k : Nat) (x : Cancel) (bytes : List UInt8) (ke : CancelEvent) : e = .cancel k ke →
      s.cancels[k]? = some x → x.phase = .writing bytes →
      s'.outbox = s.outbox ++ [.cancel x.requestId bytes] → OutMove s e s'

theorem outbox_removePending (s : Session) (requestId : Nat) :
    (s.removePending requestId).outbox = s.outbox :=
  removePending_keeps (g := Session.outbox) (fun _ _ _ => rfl) s requestId

theorem outbox_answerPending (s : Session) (requestId : Nat)
    (result : Except IpcError ControlResponse) :
    (s.answerPending requestId result).outbox = s.outbox :=
  answerPending_keeps (g := Session.outbox) (fun _ _ _ => rfl) s requestId result

theorem step_outbox {cfg : SessionCfg} {s s' : Session} {e : SessionEvent}
    (h : step cfg s e = some s') : OutMove s e s' := by
  cases step_move h with
  | send | requestCancel | close => exact .keep rfl
  | reader re _ m =>
      cases m with
      | stop | markClosed | drain => exact .keep rfl
      | answer => exact .keep (outbox_answerPending _ _ _)
  | cancel k x ke _ hx m =>
      cases m with
      | encodeFail | encode | lockWriter => exact .keep rfl
      | forget | remove => exact .keep (outbox_answerPending _ _ _)
      | write bytes hp => exact .cancel k x bytes .write rfl hx hp rfl
      | writeFail bytes sent detail hp =>
          cases sent with
          | false => exact .keep rfl
          | true => exact .cancel k x bytes _ rfl hx hp rfl
  | call i c ce _ hc m =>
      cases m with
      | refused | opened | allocate | overLimit | checkLimit | register | encodeFail | encode
      | lockWriter | receive | timeout | finishTimeout => exact .keep rfl
      | removeFailed | removeExpired => exact .keep (outbox_removePending _ _)
      | write requestId bytes hp hid =>
          exact .request i requestId c bytes .write rfl (.inl rfl) hc hp hid rfl
      | writeFail requestId bytes sent detail hp hid =>
          cases sent with
          | false => exact .keep rfl
          | true => exact .request i requestId c bytes _ rfl (.inr ⟨detail, rfl⟩) hc hp hid rfl

theorem cancels_removePending (s : Session) (requestId : Nat) :
    (s.removePending requestId).cancels = s.cancels :=
  removePending_keeps (g := Session.cancels) (fun _ _ _ => rfl) s requestId

theorem cancels_answerPending (s : Session) (requestId : Nat)
    (result : Except IpcError ControlResponse) :
    (s.answerPending requestId result).cancels = s.cancels :=
  answerPending_keeps (g := Session.cancels) (fun _ _ _ => rfl) s requestId result

/-- The bytes a cancel call holds are the encoding of its id; only the binary
    codec has any. -/
def CancelEncoded (cfg : SessionCfg) (x : Cancel) : Prop :=
  ∀ bytes, x.phase = .encoded bytes ∨ x.phase = .writing bytes →
    cfg.codec = .binary ∧ encodeBinaryCancel x.requestId cfg.limits = .ok bytes

/-- Every cancel call that holds bytes holds the encoding of its id. -/
def CancelsEncoded (cfg : SessionCfg) (s : Session) : Prop :=
  ∀ (k : Nat) (x : Cancel), s.cancels[k]? = some x → CancelEncoded cfg x

theorem CancelsEncoded.preserved {cfg : SessionCfg} {s s' : Session} {e : SessionEvent}
    (h : CancelsEncoded cfg s) (hs : step cfg s e = some s') : CancelsEncoded cfg s' := by
  -- a new cancel call, and one that moves to a phase without bytes
  have hnew : ∀ (l : List Cancel) (requestId : Nat),
      (∀ (k : Nat) (x : Cancel), l[k]? = some x → CancelEncoded cfg x) →
      ∀ (k : Nat) (x : Cancel), (l ++ [⟨requestId, .start⟩])[k]? = some x →
        CancelEncoded cfg x := by
    intro l requestId hl k x hx
    rcases getElem?_concat_inv hx with hx | ⟨-, rfl⟩
    · exact hl k x hx
    · rintro bytes (hb | hb) <;> exact nomatch hb
  have hset : ∀ (k : Nat) (x : Cancel) (p : CancelPhase), s.cancels[k]? = some x →
      CancelEncoded cfg ⟨x.requestId, p⟩ → ∀ (t : Session), t.cancels = s.cancels →
      ∀ (j : Nat) (y : Cancel), (t.setCancel k p).cancels[j]? = some y → CancelEncoded cfg y := by
    intro k x p hx hp t ht j y hy
    unfold Session.setCancel at hy
    dsimp only at hy
    rw [ht] at hy
    obtain ⟨y₀, hy₀, ⟨rfl, rfl⟩ | ⟨-, rfl⟩⟩ := getElem?_modify_inv hy
    · rw [hx] at hy₀
      cases hy₀
      exact hp
    · exact h j _ hy₀
  have hplain : ∀ (requestId : Nat) (p : CancelPhase), (∀ bytes, p ≠ .encoded bytes) →
      (∀ bytes, p ≠ .writing bytes) → CancelEncoded cfg ⟨requestId, p⟩ := by
    intro requestId p h₁ h₂ bytes hb
    rcases hb with hb | hb
    · exact absurd hb (h₁ bytes)
    · exact absurd hb (h₂ bytes)
  cases step_move hs with
  | send | close => exact h
  | requestCancel requestId => exact hnew s.cancels requestId h
  | reader re _ m =>
      cases m with
      | stop | markClosed | drain => exact h
      | answer =>
          intro k x hx
          rw [cancels_answerPending] at hx
          exact h k x hx
  | call i c ce _ hc m =>
      cases m with
      | refused | opened | allocate | overLimit | checkLimit | register | encodeFail | encode
      | lockWriter | write | writeFail | receive | timeout | finishTimeout => exact h
      | removeFailed requestId =>
          intro k x hx
          have hx' : (s.removePending requestId).cancels[k]? = some x := hx
          rw [cancels_removePending] at hx'
          exact h k x hx'
      | removeExpired requestId => exact hnew s.cancels requestId h
  | cancel k x ke _ hx m =>
      cases m with
      | forget | remove =>
          exact hset k x (.done (.ok ())) hx (hplain _ _ nofun nofun) _
            (cancels_answerPending _ _ _)
      | encodeFail error =>
          exact hset k x (.done (.error error)) hx (hplain _ _ nofun nofun) s rfl
      | write => exact hset k x .removing hx (hplain _ _ nofun nofun) s rfl
      | writeFail _ _ detail =>
          exact hset k x (.done (.error (.io detail))) hx (hplain _ _ nofun nofun) s rfl
      | encode bytes hp hc he =>
          refine hset k x _ hx ?_ s rfl
          rintro bytes' (hb | hb)
          · cases hb
            exact ⟨hc, he⟩
          · exact nomatch hb
      | lockWriter bytes hp =>
          refine hset k x _ hx ?_ s rfl
          rintro bytes' (hb | hb)
          · exact nomatch hb
          · cases hb
            exact h k x hx bytes (.inl hp)

/-- Calls are never forgotten. -/
theorem step_length {cfg : SessionCfg} {s s' : Session} {e : SessionEvent}
    (h : step cfg s e = some s') : s.calls.length ≤ s'.calls.length := by
  -- the length is that of the list of ids
  have hlen : ∀ {l l' : List Call}, l'.map Call.requestId = l.map Call.requestId →
      l.length ≤ l'.length := by
    intro l l' hmap
    have := congrArg List.length hmap
    rw [List.length_map, List.length_map] at this
    omega
  cases step_move h with
  | send =>
      rw [List.length_append]
      omega
  | requestCancel => exact Nat.le_refl _
  | close => exact hlen (slotFree_requestId.drainPending _ _)
  | reader re _ m =>
      cases m with
      | stop | markClosed => exact Nat.le_refl _
      | drain => exact hlen (slotFree_requestId.drainPending _ _)
      | answer => exact hlen (slotFree_requestId.answerPending _ _ _)
  | cancel k x ke _ hx m =>
      cases m with
      | encodeFail | encode | lockWriter | write | writeFail => exact Nat.le_refl _
      | forget | remove => exact hlen (slotFree_requestId.answerPending _ _ _)
  | call i c ce _ hc m =>
      cases m with
      | allocate => exact Nat.le_of_eq (List.length_modify _ _ _).symm
      | refused | opened | overLimit | checkLimit | encodeFail | encode | lockWriter | write |
          writeFail
      | receive | timeout | finishTimeout => exact hlen (requestIds_setPhase _ _ _)
      | register =>
          exact hlen ((requestIds_setPhase _ _ _).trans (slotFree_requestId.insertPending _ _ _))
      | removeFailed | removeExpired =>
          exact hlen ((requestIds_setPhase _ _ _).trans (slotFree_requestId.removePending _ _))

/-- The request of the call may be on the wire. -/
def CallPhase.mayHaveSent : CallPhase → Bool
  | .awaiting | .failed _ | .expired | .cancelling _ | .done _ => true
  | _ => false

/-- The entry of the call has been inserted. -/
def CallPhase.wasRegistered : CallPhase → Bool
  | .start | .opened | .allocated | .admitted => false
  | _ => true

theorem CallStep.mayHaveSent {cfg : SessionCfg} {c : Call} {ce : CallEvent} {p : CallPhase}
    (h : CallStep cfg c ce p) :
    (c.phase.mayHaveSent = true → p.mayHaveSent = true) ∧
      (c.phase.wasRegistered = true → p.wasRegistered = true) := by
  cases h with
  | refused h | opened h | allocated h | invalid h | overLimit _ h | admitted h | registered h
  | encodeFail _ h | encoded _ _ h | writing _ h | awaiting _ h | failed _ _ _ h | gaveUp _ h
  | received _ h | expired h | cancelling _ h | timedOut _ h =>
      rw [h]
      exact ⟨by first | exact fun _ => rfl | exact nofun, by first | exact fun _ => rfl | exact nofun⟩

/-- A call stays, with its request and its id. -/
theorem step_keeps_call {cfg : SessionCfg} {s s' : Session} {e : SessionEvent} (hnum : Numbered s)
    (hs : step cfg s e = some s') {i : Nat} {c : Call} (hc : s.calls[i]? = some c) :
    ∃ u, s'.calls[i]? = some u ∧ u.request = c.request ∧
      (∀ id, c.requestId = some id → u.requestId = some id) ∧
      (c.phase.mayHaveSent = true → u.phase.mayHaveSent = true) ∧
      (c.phase.wasRegistered = true → u.phase.wasRegistered = true) := by
  have hlt := Nat.lt_of_lt_of_le (lt_length_of_getElem? hc) (step_length hs)
  refine ⟨_, List.getElem?_eq_getElem hlt, ?_⟩
  cases step_origin hs (List.getElem?_eq_getElem hlt) with
  | same c' _ hc' hreq hid hp _ =>
      rw [hc] at hc'
      cases hc'
      rw [hp]
      exact ⟨hreq, fun id h => hid.trans h, id, id⟩
  | moved c' ce _ hc' hreq hid hp _ =>
      rw [hc] at hc'
      cases hc'
      refine ⟨hreq, ?_, hp.mayHaveSent.1, hp.mayHaveSent.2⟩
      intro id hcid
      rcases hid with ⟨rfl, -⟩ | ⟨-, hid⟩
      · -- a call that allocates has no id yet
        have hnone : c.requestId = none := by
          refine hnum.fresh i c hc ?_
          generalize hup : (s'.calls[i]).phase = up at hp
          cases hp with
          | allocated h | invalid h =>
              rw [h]
              rfl
        rw [hnone] at hcid
        exact nomatch hcid
      · rw [hid]
        exact hcid
  | fresh hi =>
      have := lt_length_of_getElem? hc
      omega

/-- A response a call holds after a step was held before, or the reader has
    just delivered it. -/
theorem response_origin {cfg : SessionCfg} {s s' : Session}
    {e : SessionEvent} (hnum : Numbered s)
    (hs : step cfg s e = some s') {i : Nat} {u : Call}
    {x : ControlResponse} (hu : s'.calls[i]? = some u)
    (hx : u.slot = .full (.ok x) ∨ u.phase = .done (.ok x)) :
    ∃ c, s.calls[i]? = some c ∧ (∀ id, c.requestId = some id → u.requestId = some id) ∧
      ((c.slot = .full (.ok x) ∨ c.phase = .done (.ok x)) ∨
        ∃ re id, e = .reader re ∧ Decoded cfg s re id x ∧
          s.pending.lookup id = some i) := by
  -- the id is kept
  have hid : ∀ c, s.calls[i]? = some c → ∀ id, c.requestId = some id → u.requestId = some id := by
    intro c hc id hcid
    obtain ⟨u', hu', -, hkid, -⟩ := step_keeps_call hnum hs hc
    rw [hu] at hu'
    cases hu'
    exact hkid id hcid
  cases step_origin hs hu with
  | same c _ hc _ _ hp hslot =>
      refine ⟨c, hc, hid c hc, ?_⟩
      rcases hx with hx | hx
      · cases hslot with
        | kept h => exact .inl (.inl (h ▸ hx))
        | hungUp h => exact nomatch (h.symm.trans hx)
        | failed error h => exact nomatch (h.symm.trans hx)
        | answered re id response he hd hj h =>
            cases h.symm.trans hx
            exact .inr ⟨re, id, he, hd, hj⟩
      · exact .inl (.inr (hp ▸ hx))
  | moved c ce _ hc _ _ hp hslot =>
      refine ⟨c, hc, hid c hc, .inl ?_⟩
      rcases hx with hx | hx
      · rcases hslot with h | h
        · exact .inl (h ▸ hx)
        · exact nomatch (h.symm.trans hx)
      · -- a call that returns a response takes it out of its slot
        rw [hx] at hp
        cases hp with
        | received _ _ hslot =>
            rcases hslot with hslot | ⟨-, hbad⟩
            · exact .inl hslot
            · exact nomatch hbad
  | fresh _ _ _ hp hslot =>
      rcases hx with hx | hx
      · exact nomatch (hslot.symm.trans hx)
      · exact nomatch (hp.symm.trans hx)

/-- What the session writes starts with what it had written. -/
theorem outbox_extends {cfg : SessionCfg} {s s' : Session}
    {e : SessionEvent} (h : step cfg s e = some s') :
    ∃ more, s'.outbox = s.outbox ++ more := by
  cases step_outbox h with
  | keep hout => exact ⟨[], by rw [hout, List.append_nil]⟩
  | request _ _ _ _ _ _ _ _ _ _ hout => exact ⟨_, hout⟩
  | cancel _ _ _ _ _ _ _ hout => exact ⟨_, hout⟩

/-- The call a written request belongs to. -/
def Outgoing.call? : Outgoing → Option Nat
  | .request i _ _ => some i
  | .cancel _ _ => none

/-- Entries and written requests belong to the call whose id they carry, and a
    call writes at most one request. -/
structure Booked (cfg : SessionCfg) (s : Session) : Prop where
  pending : ∀ id i : Nat, s.pending.lookup id = some i →
    ∃ c, s.calls[i]? = some c ∧ c.requestId = some id ∧ c.phase.wasRegistered = true
  encoded : ∀ (i : Nat) (c : Call) (bytes : List UInt8), s.calls[i]? = some c →
    c.phase = .encoded bytes ∨ c.phase = .writing bytes →
    ∃ id, c.requestId = some id ∧ cfg.encodeRequest id c.request = .ok bytes
  sent : ∀ (i id : Nat) (bytes : List UInt8), .request i id bytes ∈ s.outbox →
    ∃ c, s.calls[i]? = some c ∧ c.requestId = some id ∧
      cfg.encodeRequest id c.request = .ok bytes ∧ c.phase.mayHaveSent = true
  sentCancel : ∀ (id : Nat) (bytes : List UInt8), .cancel id bytes ∈ s.outbox →
    cfg.codec = .binary ∧ encodeBinaryCancel id cfg.limits = .ok bytes
  once : (s.outbox.filterMap Outgoing.call?).Nodup

theorem booked_fromStream (cfg : SessionCfg) : Booked cfg .fromStream where
  pending := by intro id i h; exact nomatch h
  encoded := by intro i c bytes h; exact nomatch h
  sent := by intro i id bytes h; exact nomatch h
  sentCancel := by intro id bytes h; exact nomatch h
  once := List.nodup_nil

theorem CallStep.encoded_inv {cfg : SessionCfg} {c : Call} {ce : CallEvent} {p : CallPhase}
    {bytes : List UInt8} (h : CallStep cfg c ce p) (hp : p = .encoded bytes ∨ p = .writing bytes) :
    ce ≠ .allocate ∧ (c.phase = .encoded bytes ∨
      ∃ id, c.requestId = some id ∧ cfg.encodeRequest id c.request = .ok bytes) := by
  cases h with
  | encoded requestId bytes' _ hid he =>
      rcases hp with hp | hp
      · cases hp
        exact ⟨nofun, .inr ⟨requestId, hid, he⟩⟩
      · exact nomatch hp
  | writing bytes' h =>
      rcases hp with hp | hp
      · exact nomatch hp
      · cases hp
        exact ⟨nofun, .inl h⟩
  | refused | opened | allocated | invalid | overLimit | admitted | registered | encodeFail
  | awaiting | failed | gaveUp | received | expired | cancelling | timedOut =>
      rcases hp with hp | hp <;> exact nomatch hp

theorem Booked.step_encoded {cfg : SessionCfg} {s s' : Session} {e : SessionEvent}
    (h : Booked cfg s) (hs : step cfg s e = some s') {i : Nat} {u : Call} {bytes : List UInt8}
    (hu : s'.calls[i]? = some u) (hp : u.phase = .encoded bytes ∨ u.phase = .writing bytes) :
    ∃ id, u.requestId = some id ∧ cfg.encodeRequest id u.request = .ok bytes := by
  cases step_origin hs hu with
  | same c _ hc hreq hid hph _ =>
      rw [hreq, hid]
      exact h.encoded i c bytes hc (hph ▸ hp)
  | moved c ce _ hc hreq hid hstep _ =>
      obtain ⟨hne, hcase⟩ := hstep.encoded_inv hp
      rcases hid with ⟨hal, -⟩ | ⟨-, hid⟩
      · exact absurd hal hne
      · rw [hreq, hid]
        rcases hcase with hph | hcase
        · exact h.encoded i c bytes hc (.inl hph)
        · exact hcase
  | fresh _ _ _ hph _ =>
      rw [hph] at hp
      rcases hp with hp | hp <;> exact nomatch hp

/-- After a successful or failed write the call may have sent. -/
theorem moved_mayHaveSent {cfg : SessionCfg} {s s' : Session} {i : Nat} {ce : CallEvent} {u : Call}
    (hs : step cfg s (.call i ce) = some s') (hu : s'.calls[i]? = some u)
    (hce : ce = .write ∨ ∃ detail, ce = .writeFail true detail) : u.phase.mayHaveSent = true := by
  cases step_origin hs hu with
  | same _ hne => exact absurd rfl (hne ce)
  | fresh _ he => exact nomatch he
  | moved c ce' he _ _ _ hp _ =>
      cases he
      generalize hup : u.phase = up at hp
      rcases hce with rfl | ⟨detail, rfl⟩ <;> cases hp <;> rfl

theorem Booked.preserved {cfg : SessionCfg} {s s' : Session} {e : SessionEvent}
    (hnum : Numbered s) (hcan : CancelsEncoded cfg s) (h : Booked cfg s)
    (hs : step cfg s e = some s') : Booked cfg s' := by
  have hsent : ∀ (i id : Nat) (bytes : List UInt8), .request i id bytes ∈ s.outbox →
      ∃ c, s'.calls[i]? = some c ∧ c.requestId = some id ∧
        cfg.encodeRequest id c.request = .ok bytes ∧ c.phase.mayHaveSent = true := by
    intro i id bytes hmem
    obtain ⟨c, hc, hid, he, hp⟩ := h.sent i id bytes hmem
    obtain ⟨u, hu, hreq, hkid, hkp, -⟩ := step_keeps_call hnum hs hc
    exact ⟨u, hu, hkid id hid, hreq ▸ he, hkp hp⟩
  refine ⟨?_, fun i c bytes => h.step_encoded hs, ?_, ?_, ?_⟩
  · intro id i hlook
    rcases (step_pending hs).lookup_inv hlook with hold | ⟨c, rfl, hc, hph, hid⟩
    · obtain ⟨c, hc, hid, hp⟩ := h.pending id i hold
      obtain ⟨u, hu, -, hkid, -, hkp⟩ := step_keeps_call hnum hs hc
      exact ⟨u, hu, hkid id hid, hkp hp⟩
    · obtain ⟨u, hu, -, hkid, -, -⟩ := step_keeps_call hnum hs hc
      refine ⟨u, hu, hkid id hid, ?_⟩
      cases step_origin hs hu with
      | same _ hne => exact absurd rfl (hne .register)
      | fresh _ he => exact nomatch he
      | moved c' ce he _ _ _ hp _ =>
          cases he
          generalize hup : u.phase = up at hp
          cases hp
          rfl
  · intro i id bytes hmem
    cases step_outbox hs with
    | keep hout => exact hsent i id bytes (hout ▸ hmem)
    | cancel k x b ke _ _ _ hout =>
        rw [hout] at hmem
        rcases List.mem_append.mp hmem with hmem | hmem
        · exact hsent i id bytes hmem
        · exact nomatch (List.mem_singleton.mp hmem)
    | request j requestId c b ce he hce hc hp hid hout =>
        rw [hout] at hmem
        rcases List.mem_append.mp hmem with hmem | hmem
        · exact hsent i id bytes hmem
        · cases List.mem_singleton.mp hmem
          subst he
          obtain ⟨id', hid', henc⟩ := h.encoded i c bytes hc (.inr hp)
          rw [hid] at hid'
          cases hid'
          obtain ⟨u, hu, hreq, hkid, -, -⟩ := step_keeps_call hnum hs hc
          exact ⟨u, hu, hkid id hid, hreq ▸ henc, moved_mayHaveSent hs hu hce⟩
  · intro id bytes hmem
    cases step_outbox hs with
    | keep hout => exact h.sentCancel id bytes (hout ▸ hmem)
    | request _ _ _ _ _ _ _ _ _ _ hout =>
        rw [hout] at hmem
        rcases List.mem_append.mp hmem with hmem | hmem
        · exact h.sentCancel id bytes hmem
        · exact nomatch (List.mem_singleton.mp hmem)
    | cancel k x b ke _ hx hp hout =>
        rw [hout] at hmem
        rcases List.mem_append.mp hmem with hmem | hmem
        · exact h.sentCancel id bytes hmem
        · cases List.mem_singleton.mp hmem
          exact hcan k x hx bytes (.inr hp)
  · cases step_outbox hs with
    | keep hout => rw [hout]; exact h.once
    | cancel k x b ke _ _ _ hout =>
        rw [hout, List.filterMap_append]
        exact (List.append_nil _).symm ▸ h.once
    | request j requestId c b ce he hce hc hp hid hout =>
        rw [hout, List.filterMap_append]
        refine List.nodup_append.mpr ⟨h.once, List.nodup_singleton _, ?_⟩
        intro a ha b' hb' hab
        cases List.mem_singleton.mp hb'
        subst hab
        obtain ⟨o, ho, hcall⟩ := List.mem_filterMap.mp ha
        cases o with
        | cancel => exact nomatch hcall
        | request i' id' bytes' =>
            cases hcall
            -- a call that is writing has written nothing
            obtain ⟨c', hc', -, -, hsent'⟩ := h.sent _ _ _ ho
            rw [hc] at hc'
            cases hc'
            rw [hp] at hsent'
            exact nomatch hsent'

/-- The bookkeeping of a session. -/
structure SessionInv (cfg : SessionCfg) (s : Session) : Prop where
  numbered : Numbered s
  cancels : CancelsEncoded cfg s
  booked : Booked cfg s

theorem sessionInv_fromStream (cfg : SessionCfg) : SessionInv cfg .fromStream where
  numbered := numbered_fromStream
  cancels := by intro k x h; exact nomatch h
  booked := booked_fromStream cfg

theorem SessionInv.preserved {cfg : SessionCfg} {s s' : Session} {e : SessionEvent}
    (h : SessionInv cfg s) (hs : step cfg s e = some s') : SessionInv cfg s' where
  numbered := h.numbered.preserved hs
  cancels := h.cancels.preserved hs
  booked := h.booked.preserved h.numbered h.cancels hs

end ServiceSession
