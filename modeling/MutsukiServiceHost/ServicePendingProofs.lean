import MutsukiServiceHost.ServiceSessionLogProofs

/-! # `pending` of a session — its bound, and who stands in it

    `send` checks the size of `pending` under one lock and inserts its entry
    under another, and each of its exits has to take the entry out again.  This
    module follows both over every interleaving of calls, cancels and the
    reader.

    * `pending_bounded` — the entries and the calls between check and insertion
      share the limit, as long as no call passes the check without room for
      them all.
    * `returned_call_leaves_pending` — an entry stands for a call that has not
      returned, as long as no call loses its encoding while its entry stands.

    Both conditions fail on the code: two calls can pass the check for one free
    place, and the two encode errors leave `send` through `?`. -/

namespace ServiceSession

open ServiceControl ServiceFrame ListUpdate Transition

/-! ## The in-flight bound -/

/-- The call has passed the limit check and is not entered yet. -/
def CallPhase.isAdmitted : CallPhase → Bool
  | .admitted => true
  | _ => false

/-- The calls between the limit check and the insertion. -/
def Session.admitted (s : Session) : Nat := s.calls.countP (·.phase.isAdmitted)

theorem slotFree_phase : SlotFree Call.phase := fun _ _ => rfl

/-- The count reads the phases alone. -/
theorem admitted_congr {s s' : Session} (h : s'.calls.map Call.phase = s.calls.map Call.phase) :
    s'.admitted = s.admitted := by
  have hmap : ∀ t : Session, t.admitted = (t.calls.map Call.phase).countP CallPhase.isAdmitted := by
    intro t
    rw [List.countP_map]
    rfl
  rw [hmap, hmap, h]

/-- A call that moves changes the count by its two phases. -/
theorem admitted_setPhase {s s₁ : Session} {i : Nat} {c : Call}
    (h : s₁.calls.map Call.phase = s.calls.map Call.phase) (hc : s.calls[i]? = some c)
    (p : CallPhase) :
    (s₁.setPhase i p).admitted + c.phase.isAdmitted.toNat = s.admitted + p.isAdmitted.toNat := by
  have hget : (s₁.calls.map Call.phase)[i]? = some c.phase := by
    rw [h, List.getElem?_map, hc]
    rfl
  rw [List.getElem?_map] at hget
  obtain ⟨c₁, hc₁, hp⟩ := Option.map_eq_some_iff.mp hget
  rw [← hp, ← admitted_congr h]
  exact countP_modify hc₁

/-- What a step does to the calls between check and insertion. -/
inductive AdmitMove (cfg : SessionCfg) (s : Session) (e : SessionEvent) (s' : Session) : Prop where
  | keep : (∀ i, e ≠ .call i .register) → s'.admitted = s.admitted → AdmitMove cfg s e s'
  | pass (i : Nat) : e = .call i .checkLimit → s.pending.keys.card < cfg.limits.maxInFlight →
      s'.admitted = s.admitted + 1 → s'.pending = s.pending → AdmitMove cfg s e s'
  | enter (i : Nat) : e = .call i .register → s'.admitted + 1 = s.admitted → AdmitMove cfg s e s'

theorem callMove_admitted {cfg : SessionCfg} {s s' : Session} {i : Nat} {c : Call} {ce : CallEvent}
    (hc : s.calls[i]? = some c) (m : CallMove cfg s i c ce s') :
    AdmitMove cfg s (.call i ce) s' := by
  -- neither phase of the move is `admitted`
  have hkeep : ∀ (s₁ : Session) (p : CallPhase),
      s₁.calls.map Call.phase = s.calls.map Call.phase → c.phase.isAdmitted = false →
      p.isAdmitted = false → (s₁.setPhase i p).admitted = s.admitted := by
    intro s₁ p hs₁ hcp hp
    have := admitted_setPhase hs₁ hc p
    rw [hcp, hp] at this
    exact this
  cases m with
  | refused hp | opened hp | overLimit hp | timeout hp =>
      exact .keep nofun (hkeep s _ rfl (by rw [hp]; rfl) rfl)
  | lockWriter _ hp | receive _ hp =>
      exact .keep nofun (hkeep s _ rfl (by rw [hp]; rfl) rfl)
  | encodeFail _ _ hp | encode _ _ hp | write _ _ hp | finishTimeout _ _ hp =>
      exact .keep nofun (hkeep s _ rfl (by rw [hp]; rfl) rfl)
  | writeFail _ _ _ _ hp => exact .keep nofun (hkeep s _ rfl (by rw [hp]; rfl) rfl)
  | removeFailed requestId _ hp | removeExpired requestId hp =>
      exact .keep nofun
        (hkeep _ _ (slotFree_phase.removePending s requestId) (by rw [hp]; rfl) rfl)
  | allocate phase hp hphase =>
      refine .keep nofun ?_
      have hcount := countP_modify (p := fun c : Call => c.phase.isAdmitted)
        (f := fun c : Call => { c with requestId := some s.nextId, phase := phase }) hc
      have hnew : phase.isAdmitted = false := by
        rcases hphase with rfl | rfl <;> rfl
      rw [hp, hnew] at hcount
      exact hcount
  | checkLimit hp hroom =>
      refine .pass i rfl hroom ?_ rfl
      have := admitted_setPhase rfl hc .admitted
      rw [hp] at this
      exact this
  | register requestId hp _ =>
      refine .enter i rfl ?_
      have := admitted_setPhase (slotFree_phase.insertPending s requestId i) hc .registered
      rw [hp] at this
      exact this

theorem step_admitted {cfg : SessionCfg} {s s' : Session} {e : SessionEvent}
    (h : step cfg s e = some s') : AdmitMove cfg s e s' := by
  cases step_move h with
  | send request =>
      refine .keep nofun ?_
      show (s.calls ++ [_]).countP _ = _
      rw [List.countP_append]
      rfl
  | requestCancel => exact .keep nofun rfl
  | close => exact .keep nofun (admitted_congr (slotFree_phase.drainPending s _))
  | reader re _ m =>
      cases m with
      | stop | markClosed => exact .keep nofun rfl
      | drain => exact .keep nofun (admitted_congr (slotFree_phase.drainPending s _))
      | answer => exact .keep nofun (admitted_congr (slotFree_phase.answerPending s _ _))
  | cancel k x ke _ hx m =>
      cases m with
      | encodeFail | encode | lockWriter | write | writeFail => exact .keep nofun rfl
      | forget | remove =>
          exact .keep nofun (admitted_congr (slotFree_phase.answerPending s _ _))
  | call i c ce _ hc m => exact callMove_admitted hc m

/-- A call passes the limit check only with room for every call that has passed
    it and is not entered yet. -/
def RoomLeft (cfg : SessionCfg) (s : Session) : SessionEvent → Prop
  | .call _ .checkLimit => cfg.limits.maxInFlight ≤ s.pending.keys.card ∨
      s.pending.keys.card + s.admitted < cfg.limits.maxInFlight
  | _ => True

instance (cfg : SessionCfg) (s : Session) : (e : SessionEvent) → Decidable (RoomLeft cfg s e)
  | .call _ ce =>
      match ce with
      | .checkLimit => inferInstanceAs (Decidable (_ ∨ _))
      | .checkClosed | .allocate | .register | .encode | .lockWriter | .write | .writeFail _ _
      | .removeFailed | .receive | .timeout | .removeExpired | .finishTimeout =>
          inferInstanceAs (Decidable True)
  | .send _ | .requestCancel _ | .cancel _ _ | .reader _ | .close =>
      inferInstanceAs (Decidable True)

/-- Entries and admitted calls fit into the limit together. -/
def Fits (cfg : SessionCfg) (s : Session) : Prop :=
  s.pending.keys.card + s.admitted ≤ cfg.limits.maxInFlight

theorem Fits.preserved {cfg : SessionCfg} {s s' : Session} {e : SessionEvent} (h : Fits cfg s)
    (hok : RoomLeft cfg s e) (hs : step cfg s e = some s') : Fits cfg s' := by
  simp only [Fits] at h ⊢
  cases step_admitted hs with
  | pass i he hroom hadm hpend =>
      subst he
      have hroom' : s.pending.keys.card + s.admitted < cfg.limits.maxInFlight :=
        hok.resolve_left (Nat.not_le.mpr hroom)
      rw [hadm, hpend]
      omega
  | keep hne hadm =>
      rw [hadm]
      cases step_pending hs with
      | keep hp => rw [hp]; exact h
      | erase k hp =>
          have := keys_erase_card_le (m := s.pending) k
          rw [hp]
          omega
      | clear hp =>
          rw [hp, Finmap.keys_empty, Finset.card_empty]
          omega
      | insert i _ _ he => exact absurd he (hne i)
  | enter i he hadm =>
      -- the admitted call turns into its entry
      cases step_pending hs with
      | keep hp => rw [hp]; omega
      | erase k hp =>
          have := keys_erase_card_le (m := s.pending) k
          rw [hp]
          omega
      | clear hp =>
          rw [hp, Finmap.keys_empty, Finset.card_empty]
          omega
      | insert j requestId _ _ _ _ _ hp =>
          have := keys_insert_card_le (m := s.pending) requestId j
          rw [hp]
          omega

/-- **THE IN-FLIGHT BOUND**: when no call passes the limit check without room
    for all that have passed it, `pending` stays within `max_in_flight`. -/
theorem pending_bounded {cfg : SessionCfg} {s : Session}
    (h : Reaches (step cfg) (RoomLeft cfg) .fromStream s) :
    s.pending.keys.card ≤ cfg.limits.maxInFlight := by
  have hfits : Fits cfg s := by
    refine h.invariant (P := Fits cfg) (Nat.zero_le _) ?_
    intro s e s' hfits hok hs
    exact hfits.preserved hok hs
  exact le_trans (Nat.le_add_right _ _) hfits

/-- A session over the binary codec with one place. -/
def narrowCfg : SessionCfg where
  codec := .binary
  limits := { sampleLimits with maxInFlight := 1, maxPayloadBytes := 20 }
  msgpack := sampleCodec
  json := ⟨fun _ => .error "unused", fun _ => .error "unused", fun _ => .error "unused",
    fun _ => .error "unused"⟩

/-- Call `i` runs up to its limit check. -/
def checks (i : Nat) : List SessionEvent :=
  [.call i .checkClosed, .call i .allocate, .call i .checkLimit]

/-- Two sends of the sample request. -/
def twoSends : List SessionEvent :=
  [.send ⟨"t", .healthCheck, .null⟩, .send ⟨"t", .healthCheck, .null⟩]

/-- The second call checks after the first one is entered. -/
def turnedAwayState : Session :=
  (run (step narrowCfg) (RoomLeft narrowCfg) .fromStream
    (twoSends ++ checks 0 ++ [.call 0 .register] ++ checks 1)).getD .fromStream

theorem pending_bounded_sample :
    Reaches (step narrowCfg) (RoomLeft narrowCfg) .fromStream turnedAwayState ∧
      turnedAwayState.pending.keys.card = 1 ∧ turnedAwayState.pending.keys.card ≤ 1 := by
  have hrun : Reaches (step narrowCfg) (RoomLeft narrowCfg) .fromStream turnedAwayState :=
    reaches_getD (by decide)
  exact ⟨hrun, by decide, pending_bounded hrun⟩

/-- Both calls check before either is entered. -/
def crowdedState : Session :=
  (run (step narrowCfg) Free .fromStream
    (twoSends ++ checks 0 ++ checks 1 ++ [.call 0 .register, .call 1 .register])).getD .fromStream

/-- Two calls pass the check for the one place and both enter. -/
theorem two_entries_for_one_place :
    ∃ s, Reaches (step narrowCfg) Free .fromStream s ∧
      narrowCfg.limits.maxInFlight < s.pending.keys.card :=
  ⟨crowdedState, reaches_getD (by decide), by decide⟩

/-! ## Who stands in `pending` -/

/-- The phases between the insertion of a call's entry and the step that has to
    take it out. -/
def CallPhase.entered : CallPhase → Bool
  | .registered | .encoded _ | .writing _ | .failed _ | .awaiting | .expired => true
  | _ => false

/-- The phases before the insertion. -/
def CallPhase.outside : CallPhase → Bool
  | .start | .opened | .allocated | .admitted => true
  | _ => false

theorem CallPhase.not_outside_of_entered {p : CallPhase} (h : p.entered = true) :
    p.outside = false := by
  cases p <;> first | rfl | cases h

/-- Every entry belongs to a call that is between insertion and removal and
    whose `oneshot` is still open. -/
structure Outstanding (s : Session) : Prop where
  entry : ∀ (id j : Nat), s.pending.lookup id = some j → ∃ c, s.calls[j]? = some c ∧
    c.requestId = some id ∧ c.phase.entered = true ∧ c.slot = .empty
  outside : ∀ (j : Nat) (c : Call), s.calls[j]? = some c → c.phase.outside = true →
    c.slot = .empty

/-- It reads the entries and the calls alone. -/
theorem Outstanding.congr {s s' : Session} (h : Outstanding s) (hp : s'.pending = s.pending)
    (hc : s'.calls = s.calls) : Outstanding s' where
  entry := by rw [hp, hc]; exact h.entry
  outside := by rw [hc]; exact h.outside

theorem outstanding_fromStream : Outstanding .fromStream where
  entry := by intro id j h; exact nomatch h
  outside := by intro j c h; exact nomatch h

/-- An entry's call is not before its insertion. -/
theorem Outstanding.not_outside {s : Session} (h : Outstanding s) {id j : Nat} {c : Call}
    (hj : s.pending.lookup id = some j) (hc : s.calls[j]? = some c) :
    c.phase.outside = false := by
  obtain ⟨c', hc', -, hp, -⟩ := h.entry id j hj
  rw [hc] at hc'
  cases hc'
  exact CallPhase.not_outside_of_entered hp

/-- One entry is taken out and its call `j` is told so by `f`. -/
theorem Outstanding.takeOut {s : Session} (h : Outstanding s) {id j : Nat} {f : Call → Call}
    (hj : s.pending.lookup id = some j) (hf : ∀ c, (f c).phase = c.phase) :
    Outstanding { s with pending := s.pending.erase id, calls := s.calls.modify j f } := by
  obtain ⟨c, hc, hid, -, -⟩ := h.entry id j hj
  constructor
  · intro id' j' hlook
    obtain ⟨hlook, hne⟩ := lookup_erase_inv hlook
    obtain ⟨c', hc', hid', hp', hs'⟩ := h.entry id' j' hlook
    -- another id is another call
    have hjj : j ≠ j' := by
      rintro rfl
      rw [hc] at hc'
      cases hc'
      exact hne (Option.some.inj (hid'.symm.trans hid))
    exact ⟨c', (getElem?_modify_ne hjj).trans hc', hid', hp', hs'⟩
  · intro j' u hu hout
    obtain ⟨c', hc', ⟨rfl, rfl⟩ | ⟨-, rfl⟩⟩ := getElem?_modify_inv hu
    · rw [hf, h.not_outside hj hc'] at hout
      exact nomatch hout
    · exact h.outside j' _ hc' hout

theorem Outstanding.removePending {s : Session} (h : Outstanding s) (id : Nat) :
    Outstanding (s.removePending id) := by
  simp only [Session.removePending]
  split
  · exact h
  · rename_i j hj
    exact h.takeOut hj fun c => c.hangUp_same.2.2.1

theorem Outstanding.answerPending {s : Session} (h : Outstanding s) (id : Nat)
    (result : Except IpcError ControlResponse) : Outstanding (s.answerPending id result) := by
  simp only [Session.answerPending]
  split
  · exact h
  · rename_i j hj
    exact h.takeOut hj fun c => (c.offer_same result).2.2.1

theorem Outstanding.drainPending {s : Session} (h : Outstanding s) (error : IpcError) :
    Outstanding (s.drainPending error) := by
  refine ⟨fun id j hlook => (nomatch hlook), ?_⟩
  intro j u hu hout
  simp only [Session.drainPending, List.getElem?_mapIdx] at hu
  obtain ⟨c, hc, rfl⟩ := Option.map_eq_some_iff.mp hu
  split at hout
  · rename_i hbind
    obtain ⟨id, -, hlook⟩ := Option.bind_eq_some_iff.mp hbind
    rw [(c.offer_same _).2.2.1, h.not_outside hlook hc] at hout
    exact nomatch hout
  · rename_i hbind
    rw [if_neg hbind]
    exact h.outside j c hc hout

/-- Call `i` is rewritten by `f`, which keeps its slot: its entry, if it has
    one, asks for its id and a phase inside. -/
theorem Outstanding.rewrite {s : Session} (h : Outstanding s) {i : Nat} {c : Call}
    {f : Call → Call} (hc : s.calls[i]? = some c) (hslot : (f c).slot = c.slot)
    (hin : ∀ id, s.pending.lookup id = some i →
      (f c).requestId = c.requestId ∧ (f c).phase.entered = true)
    (hout : (f c).phase.outside = true → c.phase.outside = true) :
    Outstanding { s with calls := s.calls.modify i f } := by
  constructor
  · intro id j hlook
    obtain ⟨c', hc', hid, hp, hs⟩ := h.entry id j hlook
    by_cases hij : i = j
    · subst hij
      rw [hc] at hc'
      cases hc'
      obtain ⟨hkeep, hphase⟩ := hin id hlook
      exact ⟨f c, getElem?_modify_self hc, hkeep.trans hid, hphase, hslot.trans hs⟩
    · exact ⟨c', (getElem?_modify_ne hij).trans hc', hid, hp, hs⟩
  · intro j u hu hu'
    obtain ⟨c', hc', ⟨rfl, rfl⟩ | ⟨-, rfl⟩⟩ := getElem?_modify_inv hu
    · rw [hc] at hc'
      cases hc'
      exact hslot.trans (h.outside _ c hc (hout hu'))
    · exact h.outside j _ hc' hu'

/-- A call that stays between insertion and removal. -/
theorem Outstanding.stay {s : Session} (h : Outstanding s) {i : Nat} {c : Call} {p : CallPhase}
    (hc : s.calls[i]? = some c) (hp : p.entered = true) : Outstanding (s.setPhase i p) := by
  refine h.rewrite hc rfl (fun _ _ => ⟨rfl, hp⟩) ?_
  intro hout
  rw [show p.outside = false from CallPhase.not_outside_of_entered hp] at hout
  exact nomatch hout

/-- A call without an entry moves on, not back before its insertion. -/
theorem Outstanding.leave {s : Session} (h : Outstanding s) {i : Nat} {c : Call} {p : CallPhase}
    (hc : s.calls[i]? = some c) (hnone : ∀ id, s.pending.lookup id ≠ some i)
    (hp : p.outside = true → c.phase.outside = true) : Outstanding (s.setPhase i p) :=
  h.rewrite hc rfl (fun id hlook => absurd hlook (hnone id)) hp

/-- A call before its insertion has no entry. -/
theorem Outstanding.no_entry_outside {s : Session} (h : Outstanding s) {i : Nat} {c : Call}
    (hc : s.calls[i]? = some c) (hp : c.phase.outside = true) (id : Nat) :
    s.pending.lookup id ≠ some i := by
  intro hlook
  rw [h.not_outside hlook hc] at hp
  exact nomatch hp

/-- Nor has a call that is past its removal, or whose slot is taken. -/
theorem Outstanding.no_entry {s : Session} (h : Outstanding s) {i : Nat} {c : Call}
    (hc : s.calls[i]? = some c) (hp : c.phase.entered = false ∨ c.slot ≠ .empty) (id : Nat) :
    s.pending.lookup id ≠ some i := by
  intro hlook
  obtain ⟨c', hc', -, hin, hs⟩ := h.entry id i hlook
  rw [hc] at hc'
  cases hc'
  rcases hp with hp | hp
  · rw [hp] at hin
    exact nomatch hin
  · exact hp hs

/-- A call that has removed its own entry has none left. -/
theorem Outstanding.no_entry_removed {s : Session} (h : Outstanding s) {i id : Nat} {c : Call}
    (hc : s.calls[i]? = some c) (hid : c.requestId = some id) (id' : Nat) :
    (s.removePending id).pending.lookup id' ≠ some i := by
  rw [pending_removePending]
  intro hlook
  obtain ⟨hlook, hne⟩ := lookup_erase_inv hlook
  obtain ⟨c', hc', hid', -, -⟩ := h.entry id' i hlook
  rw [hc] at hc'
  cases hc'
  exact hne (Option.some.inj (hid'.symm.trans hid))

/-- Call `i` takes its own entry out and moves on. -/
theorem Outstanding.removeOwn {s : Session} (h : Outstanding s) {i id : Nat} {c : Call}
    {p : CallPhase} (hc : s.calls[i]? = some c) (hid : c.requestId = some id)
    (hp : p.outside = false) : Outstanding ((s.removePending id).setPhase i p) := by
  have hget : ((s.removePending id).calls.map Call.requestId)[i]? = some (some id) := by
    rw [slotFree_requestId.removePending, List.getElem?_map, hc, ← hid]
    rfl
  rw [List.getElem?_map] at hget
  obtain ⟨c₁, hc₁, -⟩ := Option.map_eq_some_iff.mp hget
  refine (h.removePending id).leave hc₁ (h.no_entry_removed hc hid) ?_
  intro hout
  rw [hp] at hout
  exact nomatch hout

/-- The entry of call `i` goes in. -/
theorem Outstanding.register {s : Session} (h : Outstanding s) {i id : Nat} {c : Call}
    (hc : s.calls[i]? = some c) (hp : c.phase = .admitted) (hid : c.requestId = some id) :
    Outstanding ((s.insertPending id i).setPhase i .registered) := by
  have hout : c.phase.outside = true := by rw [hp]; rfl
  -- an entry that is displaced belongs to another call
  have hself : (s.insertPending id i).calls[i]? = some c := by
    simp only [Session.insertPending]
    split
    · exact hc
    · rename_i j hj
      refine (getElem?_modify_ne ?_).trans hc
      rintro rfl
      exact h.no_entry_outside hc hout id hj
  constructor
  · intro id' j hlook
    by_cases hid' : id' = id
    · subst hid'
      rw [show ((s.insertPending id' i).setPhase i .registered).pending
        = s.pending.insert id' i from rfl, Finmap.lookup_insert] at hlook
      cases hlook
      exact ⟨_, getElem?_modify_self hself, hid, rfl, h.outside i c hc hout⟩
    · rw [show ((s.insertPending id i).setPhase i .registered).pending
        = s.pending.insert id i from rfl, Finmap.lookup_insert_of_ne _ hid'] at hlook
      obtain ⟨c', hc', hcid', hp', hs'⟩ := h.entry id' j hlook
      have hij : i ≠ j := by
        rintro rfl
        exact h.no_entry_outside hc hout id' hlook
      refine ⟨c', (getElem?_modify_ne hij).trans ?_, hcid', hp', hs'⟩
      simp only [Session.insertPending]
      split
      · exact hc'
      · rename_i k hk
        refine (getElem?_modify_ne ?_).trans hc'
        rintro rfl
        obtain ⟨d, hd, hdid, -, -⟩ := h.entry id k hk
        rw [hc'] at hd
        cases hd
        exact hid' (Option.some.inj (hcid'.symm.trans hdid))
  · intro j u hu hu'
    obtain ⟨u₁, hu₁, ⟨rfl, rfl⟩ | ⟨hij, rfl⟩⟩ := getElem?_modify_inv hu
    · exact nomatch hu'
    · simp only [Session.insertPending] at hu₁
      split at hu₁
      · exact h.outside j _ hu₁ hu'
      · rename_i k hk
        obtain ⟨u₀, hu₀, ⟨rfl, rfl⟩ | ⟨-, rfl⟩⟩ := getElem?_modify_inv hu₁
        · rw [u₀.hangUp_same.2.2.1, h.not_outside hk hu₀] at hu'
          exact nomatch hu'
        · exact h.outside j _ hu₀ hu'

/-- Call `i` has bytes to write, or its entry is gone already. -/
def Encodes (cfg : SessionCfg) (s : Session) (i : Nat) : Prop :=
  match s.calls[i]? with
  | some ⟨request, some id, _, _⟩ =>
      (cfg.encodeRequest id request).toOption.isSome = true ∨ s.pending.lookup id ≠ some i
  | _ => True

instance (cfg : SessionCfg) (s : Session) (i : Nat) : Decidable (Encodes cfg s i) :=
  match h : s.calls[i]? with
  | some ⟨request, some id, _, _⟩ =>
      decidable_of_iff ((cfg.encodeRequest id request).toOption.isSome = true ∨
        s.pending.lookup id ≠ some i) (by rw [Encodes, h])
  | some ⟨_, none, _, _⟩ => isTrue (by rw [Encodes, h]; trivial)
  | none => isTrue (by rw [Encodes, h]; trivial)

/-- A call comes to its encode step with a request that encodes (or with its
    entry gone), and gets an id no call of the session has had. -/
def Releases (cfg : SessionCfg) (s : Session) : SessionEvent → Prop
  | .call i .encode => Encodes cfg s i
  | .call _ .allocate => s.nextId ∉ s.issuedIds
  | _ => True

instance (cfg : SessionCfg) (s : Session) : (e : SessionEvent) → Decidable (Releases cfg s e)
  | .call i ce =>
      match ce with
      | .encode => inferInstanceAs (Decidable (Encodes cfg s i))
      | .allocate => inferInstanceAs (Decidable (s.nextId ∉ s.issuedIds))
      | .checkLimit | .checkClosed | .register | .lockWriter | .write | .writeFail _ _
      | .removeFailed | .receive | .timeout | .removeExpired | .finishTimeout =>
          inferInstanceAs (Decidable True)
  | .send _ | .requestCancel _ | .cancel _ _ | .reader _ | .close =>
      inferInstanceAs (Decidable True)

theorem Outstanding.callMove {cfg : SessionCfg} {s s' : Session} {i : Nat} {c : Call}
    {ce : CallEvent} (h : Outstanding s) (hok : Releases cfg s (.call i ce))
    (hc : s.calls[i]? = some c) (m : CallMove cfg s i c ce s') : Outstanding s' := by
  cases m with
  | refused hp | opened hp | overLimit hp | checkLimit hp =>
      have hout : c.phase.outside = true := by rw [hp]; rfl
      exact h.leave hc (h.no_entry_outside hc hout) (fun _ => hout)
  | allocate phase hp =>
      have hout : c.phase.outside = true := by rw [hp]; rfl
      have hnone := h.no_entry_outside hc hout
      have hstep := h.rewrite (f := fun c => { c with requestId := some s.nextId, phase := phase })
        hc rfl (fun id hlook => absurd hlook (hnone id)) (fun _ => hout)
      exact ⟨hstep.entry, hstep.outside⟩
  | register id hp hid => exact h.register hc hp hid
  | encodeFail id error hp hid _ he =>
      -- the error leaves through `?`: the entry has to be gone
      have hgone : s.pending.lookup id ≠ some i := by
        obtain ⟨request, requestId, phase, slot⟩ := c
        cases hid
        simp only [Releases, Encodes, hc, he] at hok
        exact hok.resolve_left nofun
      refine h.leave hc ?_ nofun
      intro id' hlook
      obtain ⟨c', hc', hid', -, -⟩ := h.entry id' i hlook
      rw [hc] at hc'
      cases hc'
      rw [hid] at hid'
      cases hid'
      exact hgone hlook
  | encode _ bytes => exact (h.stay (p := .encoded bytes) hc rfl).congr rfl rfl
  | lockWriter bytes => exact (h.stay (p := .writing bytes) hc rfl).congr rfl rfl
  | write => exact (h.stay (p := .awaiting) hc rfl).congr rfl rfl
  | writeFail _ _ _ detail => exact (h.stay (p := .failed (.io detail)) hc rfl).congr rfl rfl
  | timeout => exact h.stay hc rfl
  | removeFailed id error hp hid => exact h.removeOwn hc hid rfl
  | receive result hp hslot =>
      refine h.leave hc (h.no_entry hc (.inr ?_)) nofun
      rcases hslot with hslot | ⟨hslot, -⟩ <;> rw [hslot] <;> exact nofun
  | removeExpired id hp hid =>
      exact (h.removeOwn (p := .cancelling s.cancels.length) hc hid rfl).congr rfl rfl
  | finishTimeout k result hp =>
      exact h.leave hc (h.no_entry hc (.inl (by rw [hp]; rfl))) nofun

theorem Outstanding.preserved {cfg : SessionCfg} {s s' : Session} {e : SessionEvent}
    (h : Outstanding s) (hok : Releases cfg s e) (hs : step cfg s e = some s') :
    Outstanding s' := by
  cases step_move hs with
  | send request =>
      constructor
      · intro id j hlook
        obtain ⟨c, hc, hentry⟩ := h.entry id j hlook
        exact ⟨c, getElem?_concat_of_some hc, hentry⟩
      · intro j u hu hout
        rcases getElem?_concat_inv hu with hu | ⟨-, rfl⟩
        · exact h.outside j u hu hout
        · rfl
  | requestCancel => exact h.congr rfl rfl
  | close => exact (h.drainPending .closed).congr rfl rfl
  | reader re _ m =>
      cases m with
      | stop | markClosed => exact h.congr rfl rfl
      | drain result => exact (h.drainPending (drainError result)).congr rfl rfl
      | answer => exact h.answerPending _ _
  | cancel k x ke _ hx m =>
      cases m with
      | encodeFail | encode | lockWriter | write | writeFail => exact h.congr rfl rfl
      | forget | remove => exact (h.answerPending x.requestId (.error .cancelled)).congr rfl rfl
  | call i c ce _ hc m => exact h.callMove hok hc m

/-- Under fresh ids no two calls share one. -/
theorem issuedIds_nodup {cfg : SessionCfg} {s s' : Session} {e : SessionEvent}
    (hnum : Numbered s) (h : s.issuedIds.Nodup) (hok : Releases cfg s e)
    (hs : step cfg s e = some s') : s'.issuedIds.Nodup := by
  cases step_ids hs with
  | keep _ hids =>
      rw [hids]
      exact h
  | allocate i c he hc hp hperm =>
      subst he
      rw [(hperm (hnum.fresh i c hc (by rw [hp]; rfl))).nodup_iff, List.nodup_cons]
      exact ⟨hok, h⟩

/-- The session's ids are distinct and its entries are outstanding. -/
structure Released (s : Session) : Prop where
  numbered : Numbered s
  distinct : s.issuedIds.Nodup
  outstanding : Outstanding s

theorem Released.of_run {cfg : SessionCfg} {s : Session}
    (h : Reaches (step cfg) (Releases cfg) .fromStream s) : Released s := by
  refine h.invariant (P := Released)
    ⟨numbered_fromStream, List.nodup_nil, outstanding_fromStream⟩ ?_
  intro s e s' hinv hok hs
  exact ⟨hinv.numbered.preserved hs, issuedIds_nodup hinv.numbered hinv.distinct hok hs,
    hinv.outstanding.preserved hok hs⟩

/-- **A RETURNED CALL LEAVES `pending`**: when every request encodes, the id of a
    call that has returned is not in `pending`, and every id in it belongs to a
    call that has not returned. -/
theorem returned_call_leaves_pending {cfg : SessionCfg} {s : Session}
    (h : Reaches (step cfg) (Releases cfg) .fromStream s) :
    (∀ (i : Nat) (c : Call) (id : Nat), s.calls[i]? = some c → c.phase.isDone = true →
      c.requestId = some id → id ∉ s.pending) ∧
      ∀ id ∈ s.pending, ∃ (j : Nat) (c : Call), s.calls[j]? = some c ∧ c.requestId = some id ∧
        c.phase.isDone = false := by
  have hinv := Released.of_run h
  have hentry : ∀ id ∈ s.pending, ∃ (j : Nat) (c : Call), s.calls[j]? = some c ∧
      c.requestId = some id ∧ c.phase.isDone = false := by
    intro id hmem
    obtain ⟨j, hj⟩ := Finmap.mem_iff.mp hmem
    obtain ⟨c, hc, hid, hp, -⟩ := hinv.outstanding.entry id j hj
    refine ⟨j, c, hc, hid, ?_⟩
    cases hcp : c.phase with
    | done => rw [hcp] at hp; exact nomatch hp
    | _ => rfl
  refine ⟨?_, hentry⟩
  intro i c id hc hdone hid hmem
  obtain ⟨j, c', hc', hid', hlive⟩ := hentry id hmem
  -- one id is one call
  have hij : i = j := filterMap_inj hinv.distinct hc hc' hid hid'
  subst hij
  rw [hc] at hc'
  cases hc'
  rw [hdone] at hlive
  exact nomatch hlive

/-- A call that times out: the entry goes, the CANCEL frame is written. -/
def timesOut : List SessionEvent :=
  [.send ⟨"t", .healthCheck, .null⟩] ++ checks 0 ++
    [.call 0 .register, .call 0 .encode, .call 0 .lockWriter, .call 0 .write, .call 0 .timeout,
      .call 0 .removeExpired, .cancel 0 .encode, .cancel 0 .lockWriter, .cancel 0 .write,
      .cancel 0 .remove, .call 0 .finishTimeout]

def timedOutState : Session :=
  (run (step narrowCfg) (Releases narrowCfg) .fromStream timesOut).getD .fromStream

theorem returned_call_leaves_pending_sample :
    Reaches (step narrowCfg) (Releases narrowCfg) .fromStream timedOutState ∧
      timedOutState.calls.map (·.phase.isDone) = [true] ∧ 1 ∉ timedOutState.pending := by
  have hrun : Reaches (step narrowCfg) (Releases narrowCfg) .fromStream timedOutState :=
    reaches_getD (by decide)
  exact ⟨hrun, by decide, (returned_call_leaves_pending hrun).1 0 _ 1 rfl rfl rfl⟩

/-- A request whose body does not fit into `max_payload_bytes`. -/
def largeRequest : ControlRequest := ⟨"a token that is too long", .healthCheck, .null⟩

def leakedState : Session :=
  (run (step narrowCfg) Free .fromStream
    ([.send largeRequest] ++ checks 0 ++ [.call 0 .register, .call 0 .encode] ++
      [.send ⟨"t", .healthCheck, .null⟩] ++ checks 1)).getD .fromStream

/-- A send fails to encode and returns; its entry stays, and the next send, the
    only one in flight, is turned away for the limit. -/
theorem failed_encode_keeps_entry :
    Reaches (step narrowCfg) Free .fromStream leakedState ∧
      (leakedState.calls.map fun c => (c.requestId, c.phase)) =
        [(some 1, .done (.error (.payloadOversized 40 20))),
          (some 2, .done (.error (.pendingLimitExceeded 1)))] ∧
      1 ∈ leakedState.pending :=
  ⟨reaches_getD (by decide), rfl, by decide⟩

end ServiceSession
