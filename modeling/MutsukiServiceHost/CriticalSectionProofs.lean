import Mathlib.Data.List.Nodup
import MutsukiServiceHost.ListUpdateProofs
import MutsukiServiceHost.TransitionProofs

/-! # Critical sections — operations of many steps under one lock

    An object is changed by operations that take many steps each.  Who calls one
    waits for the lock, takes the steps, and gives the lock back with a result;
    between two steps of one operation anything may happen elsewhere, and an
    operation may stop for good in the middle.

    * `serializable` — in every state of every interleaving the object is where
      the operations that have returned lead to, one after the other in the
      order in which they returned and with the results they gave, followed by
      the steps of the one that holds the lock.
    * `history_prefix` — an operation that returned stands in that order before
      each one that is called later. -/

namespace CriticalSection

open Transition

/-- An object of states `σ`, its operations `ι`, where an operation can stand
    (`τ`), what its steps are answered with (`ε`), and the results. -/
structure Object (σ ι τ ε ρ : Type) where
  enter : ι → τ
  step : τ → σ → ε → Option (τ × σ)
  result : τ → Option ρ

/-- Where a call stands. -/
inductive Phase (τ ρ : Type) where
  | waiting
  | inside (stage : τ)
  | returned (result : ρ)

/-- A call of an operation. -/
structure Call (ι τ ρ : Type) where
  op : ι
  phase : Phase τ ρ

/-- The call holds the lock. -/
def Call.holds {ι τ ρ : Type} (call : Call ι τ ρ) : Bool :=
  match call.phase with
  | .inside _ => true
  | .waiting | .returned _ => false

/-- A call that has returned. -/
structure Answer (ι ρ : Type) where
  call : Nat
  op : ι
  result : ρ

/-- The object, the calls, and the history of those that have returned. -/
structure System (σ ι τ ρ : Type) where
  shared : σ
  calls : List (Call ι τ ρ)
  history : List (Answer ι ρ)

/-- What happens next. -/
inductive Event (ι ε : Type) where
  | call (op : ι)
  /-- call `k` takes the lock -/
  | enter (k : Nat)
  /-- call `k` takes a step of its operation -/
  | inner (k : Nat) (answer : ε)
  /-- call `k` gives the lock back and returns -/
  | leave (k : Nat)

variable {σ ι τ ε ρ : Type}

/-- The object before any call. -/
def System.init (shared : σ) : System σ ι τ ρ := ⟨shared, [], []⟩

/-- The phase of call `k` replaced. -/
def System.setPhase (s : System σ ι τ ρ) (k : Nat) (phase : Phase τ ρ) : System σ ι τ ρ :=
  { s with calls := s.calls.modify k fun call => { call with phase := phase } }

/-- One more answer. -/
def System.record (s : System σ ι τ ρ) (answer : Answer ι ρ) : System σ ι τ ρ :=
  { s with history := s.history ++ [answer] }

/-- One step of the system. -/
def step (obj : Object σ ι τ ε ρ) (s : System σ ι τ ρ) : Event ι ε → Option (System σ ι τ ρ)
  | .call op => some { s with calls := s.calls ++ [⟨op, .waiting⟩] }
  | .enter k =>
      match s.calls[k]? with
      | some ⟨op, .waiting⟩ =>
          if s.calls.any Call.holds then none else some (s.setPhase k (.inside (obj.enter op)))
      | _ => none
  | .inner k answer =>
      match s.calls[k]? with
      | some ⟨_, .inside stage⟩ =>
          match obj.step stage s.shared answer with
          | some (stage, shared) => some ({ s with shared }.setPhase k (.inside stage))
          | none => none
      | _ => none
  | .leave k =>
      match s.calls[k]? with
      | some ⟨op, .inside stage⟩ =>
          match obj.result stage with
          | some result =>
              some ((s.record ⟨k, op, result⟩).setPhase k (.returned result))
          | none => none
      | _ => none

/-! ## Operations one after the other -/

/-- The steps of an operation that nobody else is beside. -/
def stepAlone (obj : Object σ ι τ ε ρ) (at' : τ × σ) (answer : ε) : Option (τ × σ) :=
  obj.step at'.1 at'.2 answer

/-- The operation has come to `stage`, alone with the object. -/
def Alone (obj : Object σ ι τ ε ρ) (op : ι) (shared : σ) (stage : τ) (shared' : σ) : Prop :=
  Reaches (stepAlone obj) Free (obj.enter op, shared) (stage, shared')

/-- Whole operations one after the other. -/
inductive Serial (obj : Object σ ι τ ε ρ) (shared : σ) : List (ι × ρ) → σ → Prop where
  | nil : Serial obj shared [] shared
  | concat {log : List (ι × ρ)} {before after : σ} {op : ι} {stage : τ} {result : ρ} :
      Serial obj shared log before → Alone obj op before stage after →
      obj.result stage = some result → Serial obj shared (log ++ [(op, result)]) after

/-- What the history says without the names of the calls. -/
def System.log (s : System σ ι τ ρ) : List (ι × ρ) := s.history.map fun a => (a.op, a.result)

/-! ## What a step can do -/

section Steps

variable {obj : Object σ ι τ ε ρ} {s s' : System σ ι τ ρ} {e : Event ι ε}

/-- The steps, one constructor for each. -/
inductive Move (obj : Object σ ι τ ε ρ) (s : System σ ι τ ρ) :
    Event ι ε → System σ ι τ ρ → Prop where
  | call (op : ι) : Move obj s (.call op) { s with calls := s.calls ++ [⟨op, .waiting⟩] }
  | enter {k : Nat} {op : ι} : s.calls[k]? = some ⟨op, .waiting⟩ →
      (∀ call ∈ s.calls, call.holds = false) →
      Move obj s (.enter k) (s.setPhase k (.inside (obj.enter op)))
  | inner {k : Nat} {op : ι} {stage stage' : τ} {shared : σ} {answer : ε} :
      s.calls[k]? = some ⟨op, .inside stage⟩ →
      obj.step stage s.shared answer = some (stage', shared) →
      Move obj s (.inner k answer) ({ s with shared }.setPhase k (.inside stage'))
  | leave {k : Nat} {op : ι} {stage : τ} {result : ρ} :
      s.calls[k]? = some ⟨op, .inside stage⟩ → obj.result stage = some result →
      Move obj s (.leave k) ((s.record ⟨k, op, result⟩).setPhase k (.returned result))

theorem step_move (h : step obj s e = some s') : Move obj s e s' := by
  cases e with
  | call op =>
      rw [← Option.some.inj h]
      exact .call op
  | enter k =>
      rw [step] at h
      split at h
      · rename_i op hk
        obtain ⟨hfree, h⟩ := Option.ite_none_left_eq_some.mp h
        rw [← Option.some.inj h]
        refine .enter hk fun call hcall => ?_
        rw [Bool.not_eq_true, List.any_eq_false] at hfree
        exact Bool.not_eq_true _ |>.mp (hfree call hcall)
      · exact nomatch h
  | inner k answer =>
      rw [step] at h
      split at h
      · rename_i op stage hk
        split at h
        · rename_i stage' shared hstep
          rw [← Option.some.inj h]
          exact .inner hk hstep
        · exact nomatch h
      · exact nomatch h
  | leave k =>
      rw [step] at h
      split at h
      · rename_i op stage hk
        split at h
        · rename_i result hresult
          rw [← Option.some.inj h]
          exact .leave hk hresult
        · exact nomatch h
      · exact nomatch h

/-- Where a call is when the phase of one is replaced. -/
theorem getElem?_setPhase {k j : Nat} {op : ι} {old phase : Phase τ ρ} {call : Call ι τ ρ}
    (hk : s.calls[k]? = some ⟨op, old⟩) (hj : (s.setPhase k phase).calls[j]? = some call) :
    (j = k ∧ call = ⟨op, phase⟩) ∨ (j ≠ k ∧ s.calls[j]? = some call) := by
  obtain ⟨before, hbefore, ⟨rfl, rfl⟩ | ⟨hne, rfl⟩⟩ := ListUpdate.getElem?_modify_inv hj
  · obtain rfl := Option.some.inj (hbefore.symm.trans hk)
    exact .inl ⟨rfl, rfl⟩
  · exact .inr ⟨Ne.symm hne, hbefore⟩

end Steps

/-! ## The invariant -/

section Invariant

variable {obj : Object σ ι τ ε ρ} {s s' : System σ ι τ ρ} {e : Event ι ε} {shared₀ : σ}

/-- What holds in every state. -/
structure Sound (obj : Object σ ι τ ε ρ) (shared₀ : σ) (s : System σ ι τ ρ) : Prop where
  /-- one call holds the lock at most -/
  mutex : ∀ (j k : Nat) (call call' : Call ι τ ρ), s.calls[j]? = some call →
    s.calls[k]? = some call' → call.holds = true → call'.holds = true → j = k
  /-- each answer belongs to a call, and a call has one answer -/
  answered : ∀ (k : Nat) (op : ι) (result : ρ),
    (⟨k, op, result⟩ ∈ s.history ↔ s.calls[k]? = some ⟨op, .returned result⟩)
  once : (s.history.map Answer.call).Nodup
  serial : ∃ shared, Serial obj shared₀ s.log shared ∧
    ((∀ call ∈ s.calls, call.holds = false) → s.shared = shared) ∧
    ∀ (k : Nat) (op : ι) (stage : τ), s.calls[k]? = some ⟨op, .inside stage⟩ →
      Alone obj op shared stage s.shared

theorem sound_init (obj : Object σ ι τ ε ρ) (shared₀ : σ) : Sound obj shared₀ (.init shared₀) where
  mutex j k call call' hj := by simp [System.init] at hj
  answered k op result := by simp [System.init]
  once := List.nodup_nil
  serial := ⟨shared₀, .nil, fun _ => rfl, fun k op stage hk => by simp [System.init] at hk⟩

/-- Replacing the phase of a call by one that holds the lock no more than before
    keeps the lock with one call. -/
theorem Sound.mutex_setPhase (hs : Sound obj shared₀ s) {k : Nat} {op : ι} {old phase : Phase τ ρ}
    (hk : s.calls[k]? = some ⟨op, old⟩)
    (hle : Call.holds (⟨op, phase⟩ : Call ι τ ρ) = true →
      Call.holds (⟨op, old⟩ : Call ι τ ρ) = true ∨ ∀ call ∈ s.calls, call.holds = false)
    (i j : Nat) (call call' : Call ι τ ρ) (hi : (s.setPhase k phase).calls[i]? = some call)
    (hj : (s.setPhase k phase).calls[j]? = some call') (hholds : call.holds = true)
    (hholds' : call'.holds = true) : i = j := by
  obtain ⟨hik, rfl⟩ | ⟨-, hi⟩ := getElem?_setPhase hk hi
  · obtain ⟨hjk, rfl⟩ | ⟨-, hj⟩ := getElem?_setPhase hk hj
    · exact hik.trans hjk.symm
    · obtain hold | hfree := hle hholds
      · exact hik.trans (hs.mutex k j _ call' hk hj hold hholds')
      · exact nomatch (hfree call' (List.mem_of_getElem? hj)).symm.trans hholds'
  · obtain ⟨hjk, rfl⟩ | ⟨-, hj⟩ := getElem?_setPhase hk hj
    · obtain hold | hfree := hle hholds'
      · exact (hs.mutex i k call _ hi hk hholds hold).trans hjk.symm
      · exact nomatch (hfree call (List.mem_of_getElem? hi)).symm.trans hholds
    · exact hs.mutex i j call call' hi hj hholds hholds'

theorem Move.mutex (h : Move obj s e s') (hs : Sound obj shared₀ s) (i j : Nat)
    (call call' : Call ι τ ρ) (hi : s'.calls[i]? = some call) (hj : s'.calls[j]? = some call')
    (hholds : call.holds = true) (hholds' : call'.holds = true) : i = j := by
  cases h with
  | call op =>
      obtain hi | ⟨-, rfl⟩ := ListUpdate.getElem?_concat_inv hi
      · obtain hj | ⟨-, rfl⟩ := ListUpdate.getElem?_concat_inv hj
        · exact hs.mutex i j call call' hi hj hholds hholds'
        · exact nomatch hholds'
      · exact nomatch hholds
  | enter hk hfree =>
      exact hs.mutex_setPhase hk (fun _ => .inr hfree) i j call call' hi hj hholds hholds'
  | inner hk => exact hs.mutex_setPhase hk (fun _ => .inl rfl) i j call call' hi hj hholds hholds'
  | leave hk =>
      refine hs.mutex_setPhase hk (fun hfree => ?_) i j call call' hi hj hholds hholds'
      exact absurd hfree Bool.false_ne_true

/-- An answer of a call whose phase is replaced. -/
theorem returned_setPhase {k j : Nat} {op op' : ι} {old phase : Phase τ ρ} {result : ρ}
    (hk : s.calls[k]? = some ⟨op, old⟩) (hold : ∀ r, old ≠ .returned r) :
    (s.setPhase k phase).calls[j]? = some ⟨op', .returned result⟩ ↔
      (j = k ∧ op' = op ∧ phase = .returned result) ∨
        s.calls[j]? = some ⟨op', .returned result⟩ := by
  constructor
  · intro hj
    obtain ⟨rfl, hsame⟩ | ⟨-, hj⟩ := getElem?_setPhase hk hj
    · obtain ⟨rfl, rfl⟩ := Call.mk.inj hsame
      exact .inl ⟨rfl, rfl, rfl⟩
    · exact .inr hj
  · rintro (⟨rfl, rfl, rfl⟩ | hj)
    · exact ListUpdate.getElem?_modify_self hk
    · have hne : k ≠ j := by
        rintro rfl
        have hphase := (Call.mk.inj (Option.some.inj (hk.symm.trans hj))).2
        exact hold result hphase
      exact (ListUpdate.getElem?_modify_ne hne).trans hj

theorem Move.answered (h : Move obj s e s') (hs : Sound obj shared₀ s) (k : Nat) (op : ι)
    (result : ρ) :
    ⟨k, op, result⟩ ∈ s'.history ↔ s'.calls[k]? = some ⟨op, .returned result⟩ := by
  cases h with
  | call op' =>
      rw [hs.answered k op result]
      constructor
      · exact fun hk => ListUpdate.getElem?_concat_of_some hk
      · intro hk
        obtain hk | ⟨-, hnew⟩ := ListUpdate.getElem?_concat_inv hk
        · exact hk
        · exact nomatch (Call.mk.inj hnew).2
  | enter hk' =>
      refine (hs.answered k op result).trans ((returned_setPhase hk' nofun).trans ?_).symm
      exact or_iff_right fun h => nomatch h.2.2
  | @inner k' op' stage stage' shared answer hk' =>
      refine (hs.answered k op result).trans
        ((returned_setPhase (s := { s with shared }) hk' nofun).trans ?_).symm
      exact or_iff_right fun h => nomatch h.2.2
  | @leave k' op' stage result' hk' hresult =>
      show _ ∈ s.history ++ [_] ↔ _
      rw [List.mem_append, List.mem_singleton, hs.answered k op result]
      refine Iff.trans ?_ (returned_setPhase
        (s := s.record ⟨k', op', result'⟩) hk' nofun).symm
      rw [or_comm]
      refine or_congr ⟨fun h => ?_, ?_⟩ Iff.rfl
      · obtain ⟨rfl, rfl, rfl⟩ := Answer.mk.inj h
        exact ⟨rfl, rfl, rfl⟩
      · rintro ⟨rfl, rfl, h⟩
        rw [Phase.returned.inj h]

theorem Move.once (h : Move obj s e s') (hs : Sound obj shared₀ s) :
    (s'.history.map Answer.call).Nodup := by
  cases h with
  | call | enter | inner => exact hs.once
  | @leave k op stage result hk hresult =>
      show ((s.history ++ [_]).map Answer.call).Nodup
      rw [List.map_append, List.map_singleton, ← List.concat_eq_append, List.nodup_concat]
      refine ⟨fun hmem => ?_, hs.once⟩
      obtain ⟨⟨k', op', result'⟩, ha, rfl⟩ := List.mem_map.mp hmem
      have hreturned := (hs.answered k' op' result').mp ha
      exact nomatch (Call.mk.inj (Option.some.inj (hk.symm.trans hreturned))).2

/-- Who holds the lock is alone. -/
theorem Sound.alone (hs : Sound obj shared₀ s) {k j : Nat} {op op' : ι} {stage stage' : τ}
    (hk : s.calls[k]? = some ⟨op, .inside stage⟩) (hj : s.calls[j]? = some ⟨op', .inside stage'⟩) :
    j = k :=
  hs.mutex j k _ _ hj hk rfl rfl

theorem Move.serial (h : Move obj s e s') (hs : Sound obj shared₀ s) :
    ∃ shared, Serial obj shared₀ s'.log shared ∧
      ((∀ call ∈ s'.calls, call.holds = false) → s'.shared = shared) ∧
      ∀ (k : Nat) (op : ι) (stage : τ), s'.calls[k]? = some ⟨op, .inside stage⟩ →
        Alone obj op shared stage s'.shared := by
  obtain ⟨shared, hserial, hfree, hinside⟩ := hs.serial
  cases h with
  | call op' =>
      refine ⟨shared, hserial, fun hnone => ?_, fun k op stage hk => ?_⟩
      · exact hfree fun call hcall => hnone call (List.mem_append_left _ hcall)
      · obtain hk | ⟨-, hnew⟩ := ListUpdate.getElem?_concat_inv hk
        · exact hinside k op stage hk
        · exact nomatch (Call.mk.inj hnew).2
  | @enter k' op' hk' hnone =>
      refine ⟨shared, hserial, fun _ => hfree hnone, fun k op stage hk => ?_⟩
      obtain ⟨rfl, hsame⟩ | ⟨-, hk⟩ := getElem?_setPhase hk' hk
      · obtain ⟨rfl, hphase⟩ := Call.mk.inj hsame
        obtain rfl := Phase.inside.inj hphase
        show Alone obj op shared _ s.shared
        rw [hfree hnone]
        exact .init
      · exact nomatch (hnone _ (List.mem_of_getElem? hk)).symm
  | @inner k' op' stage' stage'' shared' answer hk' hstep =>
      have hself := ListUpdate.getElem?_modify_self
        (f := fun call : Call ι τ ρ => { call with phase := .inside stage'' }) hk'
      refine ⟨shared, hserial, fun hnone => ?_, fun k op stage hk => ?_⟩
      · exact nomatch (hnone _ (List.mem_of_getElem? hself)).symm
      · obtain ⟨rfl, hsame⟩ | ⟨hne, hk⟩ := getElem?_setPhase
          (s := { s with shared := shared' }) hk' hk
        · obtain ⟨rfl, hphase⟩ := Call.mk.inj hsame
          obtain rfl := Phase.inside.inj hphase
          exact (hinside k op stage' hk').step answer trivial hstep
        · exact absurd (hs.alone hk' hk) hne
  | @leave k' op' stage' result hk' hresult =>
      refine ⟨s.shared, ?_, fun _ => rfl, fun k op stage hk => ?_⟩
      · show Serial obj shared₀ ((s.history ++ [_]).map _) s.shared
        rw [List.map_append, List.map_singleton]
        exact hserial.concat (hinside k' op' stage' hk') hresult
      · obtain ⟨-, hsame⟩ | ⟨hne, hk⟩ := getElem?_setPhase
          (s := s.record ⟨k', op', result⟩) hk' hk
        · exact nomatch (Call.mk.inj hsame).2
        · exact absurd (hs.alone hk' hk) hne

theorem Move.sound (h : Move obj s e s') (hs : Sound obj shared₀ s) : Sound obj shared₀ s' where
  mutex := h.mutex hs
  answered := h.answered hs
  once := h.once hs
  serial := h.serial hs

/-- **SERIALIZABILITY.** -/
theorem serializable (h : Reaches (step obj) Free (.init shared₀) s) : Sound obj shared₀ s :=
  h.invariant (sound_init obj shared₀) fun _ _ _ hs _ hstep => (step_move hstep).sound hs

/-- **REAL TIME**: the history is only extended. -/
theorem history_prefix {es : List (Event ι ε)} (h : Trace (step obj) s es s') :
    s.history <+: s'.history := by
  refine h.invariant (fun _ s' => s.history <+: s'.history) (List.prefix_refl _) ?_
  intro es s₁ e s₂ ih hstep
  refine ih.trans ?_
  cases step_move hstep with
  | call | enter | inner => exact List.prefix_refl _
  | leave => exact List.prefix_append _ _

end Invariant

end CriticalSection
