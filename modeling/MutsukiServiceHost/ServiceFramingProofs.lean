import MutsukiServiceHost.ServiceServerLogProofs

/-! # The bytes on the wire are frames

    What `serve_binary` has written so far, byte by byte.  The writer lock
    keeps the writers apart (`Exclusive`), so as long as no task is dropped in
    the middle of its frame the output is a sequence of whole frames and at
    most the beginning of the one that is being written (`Framed`).  An abort
    that lands inside `write_all` gives the lock away with the frame half
    written, and the next writer continues after the torn bytes. -/

namespace ServiceServer

open ServiceControl ServiceFrame ListUpdate Transition

/-- The task is inside `write_all_flush`. -/
def TaskPhase.isWriting : TaskPhase → Bool
  | .writing _ _ _ => true
  | _ => false

/-- The loop is inside `write_all_flush`. -/
def LoopPhase.isWriting : LoopPhase → Bool
  | .rejectWriting _ _ _ _ => true
  | _ => false

/-- The writer is held by exactly the party that is writing. -/
structure Exclusive (s : ServerConn) : Prop where
  tasks : ∀ (i : Nat) (t : Task), s.tasks[i]? = some t →
    (t.phase.isWriting = true ↔ s.writerHolder = some (.task i))
  loop : s.loop.isWriting = true ↔ s.writerHolder = some .loop
  bound : ∀ i : Nat, s.writerHolder = some (.task i) → i < s.tasks.length

@[simp] theorem writerHolder_removePending (s : ServerConn) (self requestId : Nat) :
    (s.removePending self requestId).writerHolder = s.writerHolder :=
  removePending_keeps (g := ServerConn.writerHolder) (fun _ _ _ => rfl) s self requestId

/-- The only step into a writing phase is taking the writer, or writing on. -/
theorem PhaseStep.isWriting_iff {cfg : ServerCfg} {t : Task} {te : TaskEvent} {p : TaskPhase}
    (h : PhaseStep cfg t te p) :
    p.isWriting = true ↔ te = .lockWriter ∨ ∃ n, te = .write n := by
  cases h with
  | lockWriter => exact ⟨fun _ => .inl rfl, fun _ => rfl⟩
  | write response frame written n => exact ⟨fun _ => .inr ⟨n, rfl⟩, fun _ => rfl⟩
  | lock | invoke | acquire | handled | panicked | abortSeen | encodeFail | encode | flush
  | writeFail | remove | drop => simp [TaskPhase.isWriting]

/-- What a move of task `i` does to the writer: the others' hold is untouched,
    and `i` holds it afterwards exactly when it took it or wrote on. -/
theorem taskMove_holder {cfg : ServerCfg} {s s' : ServerConn} {i : Nat} {t : Task}
    {te : TaskEvent} (hi : t.phase.isWriting = true ↔ s.writerHolder = some (.task i))
    (m : TaskMove cfg s i t te s') :
    (∀ w, w ≠ Writer.task i → (s'.writerHolder = some w ↔ s.writerHolder = some w)) ∧
      (s'.writerHolder = some (.task i) ↔ te = .lockWriter ∨ ∃ n, te = .write n) := by
  -- a move from a phase that does not write keeps the holder, which is not `i`
  have hkeep : t.phase.isWriting = false → s'.writerHolder = s.writerHolder →
      te ≠ .lockWriter → (∀ n, te ≠ .write n) →
      (∀ w, w ≠ Writer.task i → (s'.writerHolder = some w ↔ s.writerHolder = some w)) ∧
        (s'.writerHolder = some (.task i) ↔ te = .lockWriter ∨ ∃ n, te = .write n) := by
    intro hp heq hl hw
    rw [heq]
    refine ⟨fun w _ => Iff.rfl, ?_⟩
    rw [← hi, hp]
    refine ⟨nofun, ?_⟩
    rintro (h | ⟨n, h⟩)
    · exact absurd h hl
    · exact absurd h (hw n)
  -- a writing task that gives the writer up leaves it free
  have hfree : s.writerHolder = some (.task i) → s'.writerHolder = none →
      te ≠ .lockWriter → (∀ n, te ≠ .write n) →
      (∀ w, w ≠ Writer.task i → (s'.writerHolder = some w ↔ s.writerHolder = some w)) ∧
        (s'.writerHolder = some (.task i) ↔ te = .lockWriter ∨ ∃ n, te = .write n) := by
    intro hold hnew hl hw
    rw [hold, hnew]
    refine ⟨?_, nofun, ?_⟩
    · intro w hne
      refine ⟨nofun, ?_⟩
      rintro ⟨⟩
      exact absurd rfl hne
    · rintro (h | ⟨n, h⟩)
      · exact absurd h hl
      · exact absurd h (hw n)
  cases m with
  | pollLock hp | pollInvoke hp | acquire hp | handlerReturn _ hp | abortSeen hp
  | encodeFail _ _ hp | encode _ _ hp =>
      exact hkeep (by rw [hp]; rfl) rfl nofun nofun
  | remove hp =>
      exact hkeep (by rw [hp]; rfl) (writerHolder_removePending _ _ _) nofun nofun
  | handlerPanic hp =>
      have hne : s.writerHolder ≠ some (.task i) := by
        rw [Ne, ← hi, hp]
        exact nofun
      exact hkeep (by rw [hp]; rfl) (if_neg hne) nofun nofun
  | lockWriter response frame hp hw =>
      refine ⟨?_, fun _ => .inl rfl, fun _ => rfl⟩
      intro w hne
      rw [hw]
      refine ⟨?_, nofun⟩
      rintro ⟨⟩
      exact absurd rfl hne
  | write response frame written n hp =>
      have hold : s.writerHolder = some (.task i) := hi.mp (by rw [hp]; rfl)
      exact ⟨fun w _ => Iff.rfl, fun _ => .inr ⟨n, rfl⟩, fun _ => hold⟩
  | flush response frame hp => exact hfree (hi.mp (by rw [hp]; rfl)) rfl nofun nofun
  | writeFail response frame written hp =>
      exact hfree (hi.mp (by rw [hp]; rfl)) rfl nofun nofun
  | drop ha hlive =>
      by_cases hold : s.writerHolder = some (.task i)
      · exact hfree hold (if_pos hold) nofun nofun
      · refine hkeep ?_ (if_neg hold) nofun nofun
        rw [← Bool.not_eq_true, hi]
        exact hold

/-- What a move of the loop does to the writer. -/
theorem loopMove_holder {cfg : ServerCfg} {s s' : ServerConn} {le : LoopEvent}
    (hl : s.loop.isWriting = true ↔ s.writerHolder = some .loop) (m : LoopMove cfg s le s') :
    (∀ i, s'.writerHolder = some (.task i) ↔ s.writerHolder = some (.task i)) ∧
      (s'.loop.isWriting = true ↔ s'.writerHolder = some .loop) := by
  -- a loop phase that does not write does not hold the writer
  have hno : s.loop.isWriting = false → s.writerHolder ≠ some .loop := by
    intro hp
    rw [Ne, ← hl, hp]
    exact nofun
  have hkeep : s.loop.isWriting = false → s'.writerHolder = s.writerHolder →
      s'.loop.isWriting = false →
      (∀ i, s'.writerHolder = some (.task i) ↔ s.writerHolder = some (.task i)) ∧
        (s'.loop.isWriting = true ↔ s'.writerHolder = some .loop) := by
    intro hp heq hp'
    rw [heq, hp']
    exact ⟨fun i => Iff.rfl, nofun, fun h => absurd h (hno hp)⟩
  have hfree : s.loop.isWriting = true → s'.writerHolder = none → s'.loop.isWriting = false →
      (∀ i, s'.writerHolder = some (.task i) ↔ s.writerHolder = some (.task i)) ∧
        (s'.loop.isWriting = true ↔ s'.writerHolder = some .loop) := by
    intro hp heq hp'
    rw [heq, hp', hl.mp hp]
    exact ⟨fun i => ⟨nofun, nofun⟩, nofun, nofun⟩
  cases m with
  | beginDrain => exact ⟨fun i => Iff.rfl, hl⟩
  | stopReading h | headerFailed _ h | toDiscarding _ _ _ h | toReading _ _ h
  | toCancelling _ _ _ h | notRequest _ _ _ h | spawn _ _ _ _ _ h | discardFailed _ _ _ _ h
  | readFailed _ _ _ h | cancelMiss _ h | cancelHit _ _ h | drainSweep h =>
      exact hkeep (by rw [h]; rfl) rfl rfl
  | abandon _ _ _ _ h | reject _ _ _ _ _ _ h =>
      refine hkeep ?_ rfl rfl
      rcases h with ⟨_, h⟩ | ⟨_, _, h⟩ <;> rw [h] <;> rfl
  | insert i requestId h =>
      exact hkeep (by rw [h]; rfl) (writerHolder_removePending _ _ _) rfl
  | rejectLock r response frame h hw =>
      refine ⟨?_, fun _ => rfl, fun _ => rfl⟩
      intro i
      rw [hw]
      exact ⟨nofun, nofun⟩
  | rejectWrite r response frame written n h =>
      have hold : s.writerHolder = some .loop := hl.mp (by rw [h]; rfl)
      exact ⟨fun i => Iff.rfl, fun _ => hold, fun _ => rfl⟩
  | rejectFlush r response frame h => exact hfree (by rw [h]; rfl) rfl rfl
  | rejectFail r response frame written error h => exact hfree (by rw [h]; rfl) rfl rfl

theorem Exclusive.preserved {cfg : ServerCfg} {s s' : ServerConn} {e : ServerEvent}
    (h : Exclusive s) (hs : step cfg s e = some s') : Exclusive s' := by
  have horigin := fun {j u} (hu : s'.tasks[j]? = some u) => step_origin hs hu
  rcases step_move hs with ⟨le, rfl, m⟩ | ⟨i, t, te, rfl, ht, m⟩
  · obtain ⟨htasks, hloop⟩ := loopMove_holder h.loop m
    refine ⟨?_, hloop, ?_⟩
    · intro j u hu
      rw [htasks j]
      cases horigin hu with
      | same t _ ht _ hp _ =>
          rw [hp]
          exact h.tasks j t ht
      | moved t te he => exact nomatch he
      | fresh hj hp =>
          rw [hp]
          refine ⟨nofun, ?_⟩
          intro hold
          have := h.bound j hold
          omega
    · intro i hi
      exact Nat.lt_of_lt_of_le (h.bound i ((htasks i).mp hi)) (step_length hs)
  · obtain ⟨hothers, hself⟩ := taskMove_holder (h.tasks i t ht) m
    refine ⟨?_, ?_, ?_⟩
    · intro j u hu
      cases horigin hu with
      | same t' hne ht' _ hp _ =>
          have hij : Writer.task j ≠ Writer.task i := by
            rintro ⟨⟩
            exact hne te rfl
          rw [hothers _ hij, hp]
          exact h.tasks j t' ht'
      | moved t' te' he ht' _ hp _ =>
          cases he
          rw [hself]
          exact hp.isWriting_iff
      | fresh hj hp =>
          have hlt := lt_length_of_getElem? ht
          have hij : Writer.task j ≠ Writer.task i := by
            rintro ⟨⟩
            omega
          rw [hothers _ hij, hp]
          refine ⟨nofun, ?_⟩
          intro hold
          have := h.bound j hold
          omega
    · rw [(taskMove_loop m).1, hothers .loop nofun]
      exact h.loop
    · intro j hj
      refine Nat.lt_of_lt_of_le ?_ (step_length hs)
      by_cases hij : j = i
      · rw [hij]
        exact lt_length_of_getElem? ht
      · exact h.bound j ((hothers (.task j) (by rintro ⟨⟩; exact hij rfl)).mp hj)

/-! ## The output is a sequence of frames -/

/-- The bytes of a frame that is not complete after `written` bytes. -/
def openBytes (frame : List UInt8) (written : Nat) : List UInt8 :=
  if written = frame.length then [] else frame.take written

/-- Nothing of a frame is out before its first write. -/
@[simp] theorem openBytes_zero (frame : List UInt8) : openBytes frame 0 = [] := by
  rw [openBytes, List.take_zero, ite_self]

/-- The bytes of the completed frames. -/
def ServerConn.frames (s : ServerConn) : List UInt8 := (s.replies.map Reply.frame).flatten

/-- The output is the completed frames and what the holder of the writer has
    written of its own frame; after a failed write, a beginning of a frame. -/
structure Framed (cfg : ServerCfg) (s : ServerConn) : Prop where
  idle : s.broken = false → s.writerHolder = none → s.out = s.frames
  task : s.broken = false → ∀ (i : Nat) (t : Task) (response : ControlResponse)
    (frame : List UInt8) (written : Nat), s.tasks[i]? = some t →
    t.phase = .writing response frame written → s.out = s.frames ++ openBytes frame written
  loop : s.broken = false → ∀ (r : Nat) (response : ControlResponse)
    (frame : List UInt8) (written : Nat), s.loop = .rejectWriting r response frame written →
    s.out = s.frames ++ openBytes frame written
  torn : s.broken = true → ∃ frame : List UInt8, ∃ n : Nat, IsFrame cfg.limits frame ∧
    n < frame.length ∧ s.out = s.frames ++ frame.take n

/-- The task has written a part of its frame only. -/
def TaskPhase.midFrame : TaskPhase → Bool
  | .writing _ frame written => decide (0 < written ∧ written < frame.length)
  | _ => false

/-- No task is dropped in the middle of its frame. -/
def FrameSafe (s : ServerConn) : ServerEvent → Prop
  | .task i .drop => ∀ t ∈ s.tasks[i]?, t.phase.midFrame = false
  | _ => True

/-- Writing on moves bytes from the rest of the frame to the output. -/
theorem openBytes_push {frame : List UInt8} {written n : Nat} (hn : 0 < n)
    (hle : written + n ≤ frame.length) (req : Nat) (response : ControlResponse)
    {out : List UInt8} {replies replies' : List Reply}
    (hout : out = (replies.map Reply.frame).flatten ++ openBytes frame written)
    (hrep : replies' = if written + n = frame.length then replies ++ [⟨req, response, frame⟩]
      else replies) :
    out ++ (frame.drop written).take n
      = (replies'.map Reply.frame).flatten ++ openBytes frame (written + n) := by
  have hopen : openBytes frame written = frame.take written := if_neg (by omega)
  have htake : frame.take written ++ (frame.drop written).take n = frame.take (written + n) :=
    List.take_add.symm
  rw [hout, hopen, List.append_assoc, htake, hrep]
  by_cases hend : written + n = frame.length
  · rw [if_pos hend, openBytes, if_pos hend, hend, List.take_length]
    simp
  · rw [if_neg hend, openBytes, if_neg hend]

/-- A step that does not write keeps the output. -/
theorem frames_congr {s s' : ServerConn} (hrep : s'.replies = s.replies)
    (hout : s'.out = s.out) {rest : List UInt8} (h : s.out = s.frames ++ rest) :
    s'.out = s'.frames ++ rest := by
  rw [hout, ServerConn.frames, hrep]
  exact h

/-- The writer is taken from nobody: whoever held it, gave it up by its own step. -/
theorem holder_gives_up {cfg : ServerCfg} {s s' : ServerConn} {e : ServerEvent} {i : Nat}
    (hex : Exclusive s) (hs : step cfg s e = some s') (hw : s.writerHolder = some (.task i))
    (hw' : s'.writerHolder = none) : e = .task i .flush ∨ e = .task i .writeFail ∨
      e = .task i .drop := by
  rcases step_move hs with ⟨le, rfl, m⟩ | ⟨j, t, te, rfl, ht, m⟩
  · have := ((loopMove_holder hex.loop m).1 i).mpr hw
    rw [hw'] at this
    exact nomatch this
  · obtain ⟨hothers, hself⟩ := taskMove_holder (hex.tasks j t ht) m
    by_cases hij : i = j
    · subst hij
      have hwriting := (hex.tasks i t ht).mpr hw
      cases m with
      | flush => exact .inl rfl
      | writeFail => exact .inr (.inl rfl)
      | drop => exact .inr (.inr rfl)
      | write _ _ _ n =>
          have := hself.mpr (.inr ⟨n, rfl⟩)
          rw [hw'] at this
          exact nomatch this
      | pollLock hp | pollInvoke hp | acquire hp | handlerReturn _ hp | handlerPanic hp
      | abortSeen hp | encodeFail _ _ hp | encode _ _ hp | lockWriter _ _ hp | remove hp =>
          rw [hp] at hwriting
          exact nomatch hwriting
    · have := (hothers (.task i) (by rintro ⟨⟩; exact hij rfl)).mpr hw
      rw [hw'] at this
      exact nomatch this

/-- The same for the loop. -/
theorem loop_gives_up {cfg : ServerCfg} {s s' : ServerConn} {e : ServerEvent}
    (hex : Exclusive s) (hs : step cfg s e = some s') (hw : s.writerHolder = some .loop)
    (hw' : s'.writerHolder = none) :
    (∃ r response frame, e = .loop .rejectFlush ∧
        s.loop = .rejectWriting r response frame frame.length) ∨
      s'.broken = true := by
  have hwriting := hex.loop.mpr hw
  rcases step_move hs with ⟨le, rfl, m⟩ | ⟨j, t, te, rfl, ht, m⟩
  · cases m with
    | rejectFlush r response frame hl => exact .inl ⟨r, response, frame, rfl, hl⟩
    | rejectFail => exact .inr rfl
    | beginDrain =>
        rw [show s.writerHolder = none from hw'] at hw
        exact nomatch hw
    | rejectWrite =>
        rw [show s.writerHolder = none from hw'] at hw
        exact nomatch hw
    | stopReading hl | headerFailed _ hl | toDiscarding _ _ _ hl | toReading _ _ hl
    | toCancelling _ _ _ hl | notRequest _ _ _ hl | spawn _ _ _ _ _ hl | discardFailed _ _ _ _ hl
    | readFailed _ _ _ hl | cancelMiss _ hl | cancelHit _ _ hl | insert _ _ hl
    | rejectLock _ _ _ hl | drainSweep hl =>
        rw [hl] at hwriting
        exact nomatch hwriting
    | abandon _ _ _ _ hl | reject _ _ _ _ _ _ hl =>
        rcases hl with ⟨_, hl⟩ | ⟨_, _, hl⟩ <;> rw [hl] at hwriting <;> exact nomatch hwriting
  · obtain ⟨hothers, -⟩ := taskMove_holder (hex.tasks j t ht) m
    have := (hothers .loop nofun).mpr hw
    rw [hw'] at this
    exact nomatch this

/-- The frame a task writes is a frame, and it has not run past its end. -/
theorem Encoded.writing {cfg : ServerCfg} {s : ServerConn} (h : Encoded cfg s) {i : Nat} {t : Task}
    {response : ControlResponse} {frame : List UInt8} {written : Nat} (ht : s.tasks[i]? = some t)
    (hp : t.phase = .writing response frame written) :
    IsFrame cfg.limits frame ∧ written ≤ frame.length := by
  have := h.tasks i t ht
  rw [TaskEncoded, hp] at this
  exact ⟨encodeBinaryResponse_isFrame this.1, this.2⟩

theorem Encoded.rejectWriting {cfg : ServerCfg} {s : ServerConn} (h : Encoded cfg s) {r : Nat}
    {response : ControlResponse} {frame : List UInt8} {written : Nat}
    (hl : s.loop = .rejectWriting r response frame written) :
    IsFrame cfg.limits frame ∧ written ≤ frame.length := by
  have := h.loop
  rw [LoopEncoded, hl] at this
  exact ⟨this.1.isFrame, this.2⟩

/-- What a failed write leaves behind is a proper beginning of a frame. -/
theorem torn_of_openBytes {cfg : ServerCfg} {frame out frames : List UInt8} {written : Nat}
    (hf : IsFrame cfg.limits frame ∧ written ≤ frame.length)
    (hout : out = frames ++ openBytes frame written) :
    ∃ frame : List UInt8, ∃ n : Nat, IsFrame cfg.limits frame ∧ n < frame.length ∧
      out = frames ++ frame.take n := by
  have hlen := hf.1.length_ge
  by_cases hend : written = frame.length
  · rw [openBytes, if_pos hend] at hout
    exact ⟨frame, 0, hf.1, by omega, by rw [hout]; rfl⟩
  · rw [openBytes, if_neg hend] at hout
    exact ⟨frame, written, hf.1, by omega, hout⟩

/-- Only the holder of the writer writes. -/
theorem quiet_unless_holder {cfg : ServerCfg} {s s' : ServerConn} {e : ServerEvent}
    (hex : Exclusive s) (hs : step cfg s e = some s')
    (hloop : ∀ n, s.writerHolder = some .loop → e ≠ .loop (.rejectWrite n))
    (htask : ∀ i n, s.writerHolder = some (.task i) → e ≠ .task i (.write n)) :
    s'.replies = s.replies ∧ s'.out = s.out := by
  cases step_replies hs with
  | keep _ _ hrep hout => exact ⟨hrep, hout⟩
  | task i t response frame written n he ht hp =>
      have hw := (hex.tasks i t ht).mp (by rw [hp]; rfl)
      exact absurd he (htask i n hw)
  | loop r response frame written n he hl =>
      have hw := hex.loop.mp (by rw [hl]; rfl)
      exact absurd he (hloop n hw)

/-- The task that holds the writer is writing. -/
theorem Exclusive.writer_task {s : ServerConn} (h : Exclusive s) {i : Nat}
    (hw : s.writerHolder = some (.task i)) :
    ∃ (t : Task) (response : ControlResponse) (frame : List UInt8) (written : Nat),
      s.tasks[i]? = some t ∧ t.phase = .writing response frame written := by
  obtain ⟨t, ht⟩ : ∃ t, s.tasks[i]? = some t := ⟨_, List.getElem?_eq_getElem (h.bound i hw)⟩
  have hwriting := (h.tasks i t ht).mpr hw
  cases hp : t.phase with
  | writing response frame written => exact ⟨t, response, frame, written, ht, hp⟩
  | spawned | locking | handling | responding | encoded | removing | finished | panicked
  | dropped =>
      rw [hp] at hwriting
      exact nomatch hwriting

theorem Framed.step_idle {cfg : ServerCfg} {s s' : ServerConn} {e : ServerEvent}
    (hex : Exclusive s) (henc : Encoded cfg s) (h : Framed cfg s) (hok : FrameSafe s e)
    (hs : step cfg s e = some s') (hb' : s'.broken = false) (hw' : s'.writerHolder = none) :
    s'.out = s'.frames := by
  obtain ⟨hb, hnofail⟩ := step_broken hs hb'
  have hfree : ∀ rest, rest = [] → s.out = s.frames ++ rest → s'.replies = s.replies →
      s'.out = s.out → s'.out = s'.frames := by
    rintro rest rfl hout hrep hout'
    have := frames_congr hrep hout' hout
    rwa [List.append_nil] at this
  cases hw : s.writerHolder with
  | none =>
      obtain ⟨hrep, hout⟩ := quiet_unless_holder hex hs
        (fun n h => by rw [hw] at h; exact nomatch h)
        (fun i n h => by rw [hw] at h; exact nomatch h)
      exact hfree [] rfl (by rw [List.append_nil]; exact h.idle hb hw) hrep hout
  | some w =>
      cases w with
      | loop =>
          rcases loop_gives_up hex hs hw hw' with ⟨r, response, frame, rfl, hl⟩ | hbad
          · obtain ⟨hrep, hout⟩ := quiet_unless_holder hex hs nofun nofun
            exact hfree _ (if_pos rfl) (h.loop hb r response frame _ hl) hrep hout
          · rw [hbad] at hb'
            exact nomatch hb'
      | task i =>
          obtain ⟨t, response, frame, written, ht, hp⟩ := hex.writer_task hw
          have hout₀ := h.task hb i t response frame written ht hp
          rcases holder_gives_up hex hs hw hw' with rfl | rfl | rfl
          · obtain ⟨hrep, hout⟩ := quiet_unless_holder hex hs nofun nofun
            refine hfree _ ?_ hout₀ hrep hout
            -- a flush comes after the last byte
            rcases step_move hs with ⟨le, hle, _⟩ | ⟨_, _, _, ⟨⟩, ht', m⟩
            · exact nomatch hle
            · rw [ht] at ht'
              cases ht'
              cases m with
              | flush response' frame' hp' =>
                  rw [hp] at hp'
                  cases hp'
                  exact if_pos rfl
          · exact absurd rfl (hnofail i)
          · obtain ⟨hrep, hout⟩ := quiet_unless_holder hex hs nofun nofun
            refine hfree _ ?_ hout₀ hrep hout
            -- a drop is not in the middle of the frame
            have hmid := hok t ht
            rw [hp] at hmid
            have hle := (henc.writing ht hp).2
            have hends : written = 0 ∨ written = frame.length := by
              simp only [TaskPhase.midFrame, decide_eq_false_iff_not] at hmid
              omega
            rcases hends with rfl | hend
            · exact openBytes_zero frame
            · exact if_pos hend

theorem Framed.step_task {cfg : ServerCfg} {s s' : ServerConn} {e : ServerEvent}
    (hex : Exclusive s) (h : Framed cfg s) (hs : step cfg s e = some s')
    (hb : s.broken = false) {i : Nat} {u : Task} {response : ControlResponse}
    {frame : List UInt8} {written : Nat} (hu : s'.tasks[i]? = some u)
    (hup : u.phase = .writing response frame written) :
    s'.out = s'.frames ++ openBytes frame written := by
  cases step_origin hs hu with
  | same t hne ht _ hp _ =>
      rw [hp] at hup
      have hw := (hex.tasks i t ht).mp (by rw [hup]; rfl)
      obtain ⟨hrep, hout⟩ := quiet_unless_holder hex hs
        (fun n hw' => by rw [hw] at hw'; exact nomatch hw')
        (fun j n hw' => by rw [hw] at hw'; cases hw'; exact hne _)
      exact frames_congr hrep hout (h.task hb i t response frame written ht hup)
  | moved t te he ht _ hp _ =>
      subst he
      rw [hup] at hp
      cases hp with
      | lockWriter _ _ htp =>
          -- nobody held the writer, so the output ended with a whole frame
          have hw : s.writerHolder = none := by
            rcases step_move hs with ⟨le, hle, _⟩ | ⟨_, t', _, ⟨⟩, _, m⟩
            · exact nomatch hle
            · cases m with
              | lockWriter _ _ _ hw => exact hw
          obtain ⟨hrep, hout⟩ := quiet_unless_holder hex hs nofun nofun
          rw [openBytes_zero]
          exact frames_congr hrep hout (by rw [List.append_nil]; exact h.idle hb hw)
      | write _ _ w n htp hn hle =>
          cases step_replies hs with
          | keep hno _ _ _ => exact absurd rfl (hno i n)
          | task j t' response' frame' w' n' he ht' htp' _ _ hrep hout =>
              cases he
              rw [ht] at ht'
              cases ht'
              rw [htp] at htp'
              cases htp'
              rw [hout]
              exact openBytes_push hn hle t.req response
                (h.task hb i t response frame w ht htp) hrep
          | loop _ _ _ _ _ he => exact nomatch he
  | fresh _ hp =>
      rw [hp] at hup
      exact nomatch hup

theorem Framed.step_loop {cfg : ServerCfg} {s s' : ServerConn} {e : ServerEvent}
    (hex : Exclusive s) (h : Framed cfg s) (hs : step cfg s e = some s')
    (hb : s.broken = false) {r : Nat} {response : ControlResponse} {frame : List UInt8}
    {written : Nat} (hl' : s'.loop = .rejectWriting r response frame written) :
    s'.out = s'.frames ++ openBytes frame written := by
  -- the loop was writing the same frame, and whoever steps does not write
  have hkeep : s.loop = .rejectWriting r response frame written →
      (∀ n, e ≠ .loop (.rejectWrite n)) → s'.out = s'.frames ++ openBytes frame written := by
    intro hl hno
    have hw := hex.loop.mp (by rw [hl]; rfl)
    obtain ⟨hrep, hout⟩ := quiet_unless_holder hex hs (fun n _ => hno n)
      (fun i n hw' => by rw [hw] at hw'; exact nomatch hw')
    exact frames_congr hrep hout (h.loop hb r response frame written hl)
  rcases step_move hs with ⟨le, rfl, m⟩ | ⟨i, t, te, rfl, ht, m⟩
  · cases m with
    | beginDrain => exact hkeep hl' nofun
    | rejectLock _ _ _ hl hw =>
        cases hl'
        obtain ⟨hrep, hout⟩ := quiet_unless_holder hex hs nofun nofun
        rw [openBytes_zero]
        exact frames_congr hrep hout (by rw [List.append_nil]; exact h.idle hb hw)
    | rejectWrite _ _ _ w n hl hn hle =>
        cases hl'
        exact openBytes_push hn hle r response (h.loop hb r response frame w hl) rfl
    | stopReading | headerFailed | toDiscarding | toReading | toCancelling | notRequest | abandon
    | reject | spawn | discardFailed | readFailed | cancelMiss | cancelHit | insert | rejectFlush
    | rejectFail | drainSweep => exact nomatch hl'
  · exact hkeep ((taskMove_loop m).1 ▸ hl') nofun

theorem Framed.step_torn {cfg : ServerCfg} {s s' : ServerConn} {e : ServerEvent}
    (hex : Exclusive s) (henc : Encoded cfg s) (h : Framed cfg s)
    (hs : step cfg s e = some s') (hb' : s'.broken = true) :
    ∃ frame : List UInt8, ∃ n : Nat, IsFrame cfg.limits frame ∧ n < frame.length ∧
      s'.out = s'.frames ++ frame.take n := by
  cases hb : s.broken with
  | true =>
      -- nothing is written after a failed write
      obtain ⟨frame, n, hf, hn, hout₀⟩ := h.torn hb
      cases step_replies hs with
      | keep _ _ hrep hout => exact ⟨frame, n, hf, hn, frames_congr hrep hout hout₀⟩
      | task _ _ _ _ _ _ _ _ _ _ _ _ _ hwhole | loop _ _ _ _ _ _ _ _ _ _ _ _ hwhole =>
          rw [hb] at hwhole
          exact nomatch hwhole
  | false =>
      cases step_break hs with
      | keep _ _ heq =>
          rw [heq, hb] at hb'
          exact nomatch hb'
      | task i t response frame written he ht hp _ =>
          subst he
          obtain ⟨hrep, hout⟩ := quiet_unless_holder hex hs nofun nofun
          exact torn_of_openBytes (henc.writing ht hp)
            (frames_congr hrep hout (h.task hb i t response frame written ht hp))
      | loop r response frame written error he hl _ =>
          subst he
          obtain ⟨hrep, hout⟩ := quiet_unless_holder hex hs nofun nofun
          exact torn_of_openBytes (henc.rejectWriting hl)
            (frames_congr hrep hout (h.loop hb r response frame written hl))

theorem Framed.preserved {cfg : ServerCfg} {s s' : ServerConn} {e : ServerEvent}
    (hex : Exclusive s) (henc : Encoded cfg s) (h : Framed cfg s) (hok : FrameSafe s e)
    (hs : step cfg s e = some s') : Framed cfg s' where
  idle := h.step_idle hex henc hok hs
  task := by
    intro hb' i t response frame written
    exact h.step_task hex hs (step_broken hs hb').1
  loop := by
    intro hb' r response frame written
    exact h.step_loop hex hs (step_broken hs hb').1
  torn := h.step_torn hex henc hs

/-! ## Whole frames, and the frame being written -/

/-- The completed replies are frames. -/
theorem Encoded.frames {cfg : ServerCfg} {s : ServerConn} (h : Encoded cfg s) :
    ∀ frame ∈ s.replies.map Reply.frame, IsFrame cfg.limits frame := by
  intro frame hf
  obtain ⟨p, hp, rfl⟩ := List.mem_map.mp hf
  exact (h.replies p hp).isFrame

instance (s : ServerConn) (e : ServerEvent) : Decidable (FrameSafe s e) :=
  match e with
  | .task i .drop =>
      inferInstanceAs (Decidable (∀ t ∈ s.tasks[i]?, t.phase.midFrame = false))
  | .loop _ | .task _ .poll | .task _ .acquire | .task _ (.handlerReturn _)
  | .task _ .handlerPanic | .task _ .abortSeen | .task _ .encode | .task _ .lockWriter
  | .task _ (.write _) | .task _ .flush | .task _ .writeFail | .task _ .remove =>
      inferInstanceAs (Decidable True)

end ServiceServer
