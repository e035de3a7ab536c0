/-! # Mailboxes — bounded queues with one receiver

    Senders put messages at the end of a queue while there is room, one receiver
    takes them from its front, and when the receiver goes away what it has not
    taken is lost.  A mailbox carries its bound and what closing does with it,
    so that nothing has to be said about overfull or half-closed mailboxes.

    `accepted` is everything a sender was told that it was sent. -/

namespace Mailboxes

/-- A mailbox with room for `capacity` messages. -/
structure Mailbox (α : Type) (capacity : Nat) where
  queue : List α
  taken : List α
  /-- what was in the queue when the receiver went away -/
  lost : List α
  isOpen : Bool
  bounded : queue.length ≤ capacity
  open_lost : isOpen = true → lost = []
  closed_queue : isOpen = false → queue = []

namespace Mailbox

variable {α : Type} {capacity : Nat} {m m' : Mailbox α capacity} {a : α}

/-- A mailbox that nothing was sent to. -/
def empty (α : Type) (capacity : Nat) : Mailbox α capacity where
  queue := []
  taken := []
  lost := []
  isOpen := true
  bounded := Nat.zero_le _
  open_lost _ := rfl
  closed_queue h := absurd h.symm Bool.false_ne_true

/-- Everything that was accepted, in order. -/
def accepted (m : Mailbox α capacity) : List α := m.taken ++ m.queue ++ m.lost

/-- How a sending ends at once, if it does. -/
inductive Sent (α : Type) (capacity : Nat) where
  /-- there is no room -/
  | waits
  /-- there is no receiver -/
  | closed
  | accepted (m : Mailbox α capacity)

/-- Send a message. -/
def send (m : Mailbox α capacity) (a : α) : Sent α capacity :=
  if h : m.isOpen = true ∧ m.queue.length < capacity then
    .accepted
      { m with
        queue := m.queue ++ [a]
        bounded := by
          rw [List.length_append]
          exact h.2
        closed_queue := fun hclosed => absurd (hclosed.symm.trans h.1) Bool.false_ne_true }
  else if m.isOpen then .waits else .closed

/-- Take the first message. -/
def receive (m : Mailbox α capacity) : Option (α × Mailbox α capacity) :=
  match hqueue : m.queue with
  | [] => none
  | a :: queue => some (a,
      { m with
        queue := queue
        taken := m.taken ++ [a]
        bounded := by
          have hle := m.bounded
          rw [hqueue, List.length_cons] at hle
          exact Nat.le_of_succ_le hle
        closed_queue := fun hclosed => by
          have hnil := m.closed_queue hclosed
          rw [hqueue] at hnil
          exact absurd hnil (List.cons_ne_nil _ _) })

/-- The receiver goes away. -/
def close (m : Mailbox α capacity) : Mailbox α capacity where
  queue := []
  taken := m.taken
  lost := m.queue ++ m.lost
  isOpen := false
  bounded := Nat.zero_le _
  open_lost h := absurd h Bool.false_ne_true
  closed_queue _ := rfl

/-- A mailbox that is closed has no room, and one without room is full. -/
theorem send_cases (m : Mailbox α capacity) (a : α) :
    (m.send a = .closed ∧ m.isOpen = false) ∨
      (m.send a = .waits ∧ m.isOpen = true ∧ m.queue.length = capacity) ∨
        ∃ m', m.send a = .accepted m' ∧ m.isOpen = true ∧ m'.isOpen = true ∧
          m'.queue = m.queue ++ [a] ∧ m'.taken = m.taken := by
  rw [send]
  by_cases h : m.isOpen = true ∧ m.queue.length < capacity
  · rw [dif_pos h]
    exact .inr (.inr ⟨_, rfl, h.1, h.1, rfl, rfl⟩)
  · rw [dif_neg h]
    by_cases hopen : m.isOpen = true
    · rw [if_pos hopen]
      have hfull : ¬ m.queue.length < capacity := fun hlt => h ⟨hopen, hlt⟩
      exact .inr (.inl ⟨rfl, hopen, Nat.le_antisymm m.bounded (Nat.le_of_not_lt hfull)⟩)
    · rw [if_neg hopen]
      exact .inl ⟨rfl, Bool.not_eq_true _ |>.mp hopen⟩

/-- What an accepted message does. -/
theorem send_accepted (h : m.send a = .accepted m') :
    m.isOpen = true ∧ m'.isOpen = true ∧ m'.queue = m.queue ++ [a] ∧ m'.taken = m.taken := by
  obtain ⟨hsend, -⟩ | ⟨hsend, -⟩ | ⟨m'', hsend, hopen, hopen', hqueue, htaken⟩ := m.send_cases a
  · exact nomatch hsend.symm.trans h
  · exact nomatch hsend.symm.trans h
  · obtain rfl : m'' = m' := Sent.accepted.inj (hsend.symm.trans h)
    exact ⟨hopen, hopen', hqueue, htaken⟩

/-- **SENDING** appends. -/
theorem accepted_send (h : m.send a = .accepted m') : m'.accepted = m.accepted ++ [a] := by
  obtain ⟨hopen, hopen', hqueue, htaken⟩ := send_accepted h
  rw [accepted, accepted, htaken, hqueue, m.open_lost hopen, m'.open_lost hopen', List.append_nil,
    List.append_nil, List.append_assoc]

/-- What receiving does. -/
theorem receive_some (h : m.receive = some (a, m')) :
    m.queue = a :: m'.queue ∧ m'.taken = m.taken ++ [a] ∧ m'.lost = m.lost ∧
      m'.isOpen = m.isOpen := by
  rw [receive] at h
  split at h
  · exact nomatch h
  · rename_i b queue hqueue
    obtain ⟨rfl, rfl⟩ := Prod.mk.inj (Option.some.inj h)
    exact ⟨hqueue, rfl, rfl, rfl⟩

/-- A message is taken when there is one. -/
theorem exists_receive (h : m.queue ≠ []) : ∃ a m', m.receive = some (a, m') := by
  rw [receive]
  split
  · exact absurd ‹_› h
  · exact ⟨_, _, rfl⟩

/-- **RECEIVING** takes in the order of the senders. -/
theorem accepted_receive (h : m.receive = some (a, m')) : m'.accepted = m.accepted := by
  obtain ⟨hqueue, htaken, hlost, -⟩ := receive_some h
  rw [accepted, accepted, htaken, hqueue, hlost]
  simp

@[simp] theorem accepted_close (m : Mailbox α capacity) : m.close.accepted = m.accepted := by
  simp [accepted, close]

/-- What was taken was accepted before what was not. -/
theorem taken_prefix (m : Mailbox α capacity) : m.taken <+: m.accepted := by
  rw [accepted, List.append_assoc]
  exact List.prefix_append _ _

end Mailbox

end Mailboxes
