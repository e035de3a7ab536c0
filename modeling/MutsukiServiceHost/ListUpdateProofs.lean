import Mathlib.Algebra.GroupWithZero.Nat
import Mathlib.Data.Finmap

/-! # Pointwise updates of lists and maps

    A system of numbered parties keeps them in a list; a step rewrites one
    entry (`List.modify`), all of them (`List.mapIdx`) or appends one.  These
    lemmas read such a list backwards: where an entry of the new list comes
    from, and which projections of the list an update leaves alone.  One
    section does the same for a finite map that gains or loses an entry, one is
    about lists of entries, and the last one takes two lists side by side. -/

namespace ListUpdate

variable {α β : Type}

/-- An entry of a modified list is the old one or the rewritten one. -/
theorem getElem?_modify_inv {l : List α} {f : α → α} {i j : Nat} {a : α}
    (h : (l.modify i f)[j]? = some a) :
    ∃ b, l[j]? = some b ∧ ((i = j ∧ a = f b) ∨ (i ≠ j ∧ a = b)) := by
  rw [List.getElem?_modify] at h
  obtain ⟨b, hb, hab⟩ := Option.map_eq_some_iff.mp h
  refine ⟨b, hb, ?_⟩
  by_cases hij : i = j
  · rw [if_pos hij] at hab
    exact .inl ⟨hij, hab.symm⟩
  · rw [if_neg hij] at hab
    exact .inr ⟨hij, hab.symm⟩

/-- The rewritten entry. -/
theorem getElem?_modify_self {l : List α} {f : α → α} {i : Nat} {a : α}
    (h : l[i]? = some a) : (l.modify i f)[i]? = some (f a) := by
  rw [List.getElem?_modify, h]
  simp

/-- An entry that is not rewritten. -/
theorem getElem?_modify_ne {l : List α} {f : α → α} {i j : Nat} (h : i ≠ j) :
    (l.modify i f)[j]? = l[j]? := by
  rw [List.getElem?_modify]
  simp [h]

/-- A projection the update does not touch. -/
theorem map_modify {l : List α} {f : α → α} {g : α → β} {i : Nat}
    (h : ∀ a, g (f a) = g a) : (l.modify i f).map g = l.map g := by
  apply List.ext_getElem?
  intro j
  rw [List.getElem?_map, List.getElem?_map, List.getElem?_modify]
  cases l[j]? with
  | none => rfl
  | some a =>
      by_cases hij : i = j
      · simp [hij, h]
      · simp [hij]

/-- A projection an indexed update does not touch. -/
theorem map_mapIdx {l : List α} {f : Nat → α → α} {g : α → β}
    (h : ∀ j a, g (f j a) = g a) : (l.mapIdx f).map g = l.map g := by
  apply List.ext_getElem?
  intro j
  rw [List.getElem?_map, List.getElem?_map, List.getElem?_mapIdx]
  cases l[j]? with
  | none => rfl
  | some a => simp [h]

/-- An entry of an extended list is an old one or the new one. -/
theorem getElem?_concat_inv {l : List α} {a b : α} {j : Nat}
    (h : (l ++ [a])[j]? = some b) : l[j]? = some b ∨ (j = l.length ∧ b = a) := by
  rcases Nat.lt_or_ge j l.length with hj | hj
  · rw [List.getElem?_append_left hj] at h
    exact .inl h
  · rw [List.getElem?_append_right hj] at h
    obtain ⟨hj', hab⟩ := List.getElem?_eq_some_iff.mp h
    have hj0 : j = l.length := by simp at hj'; omega
    subst hj0
    exact .inr ⟨rfl, by simpa using hab.symm⟩

/-- Old entries stay when a list is extended. -/
theorem getElem?_concat_of_some {l : List α} {a b : α} {j : Nat}
    (h : l[j]? = some b) : (l ++ [a])[j]? = some b := by
  have hj : j < l.length := (List.getElem?_eq_some_iff.mp h).1
  rw [List.getElem?_append_left hj]
  exact h

/-- The new entry. -/
theorem getElem?_concat_self {l : List α} {a : α} : (l ++ [a])[l.length]? = some a := by
  simp

/-- An entry of a list stands below its length. -/
theorem lt_length_of_getElem? {l : List α} {a : α} {j : Nat} (h : l[j]? = some a) :
    j < l.length :=
  (List.getElem?_eq_some_iff.mp h).1

/-- Two entries with one value under `g` are one entry when those values are
    distinct. -/
theorem filterMap_inj {g : α → Option β} {l : List α} (h : (l.filterMap g).Nodup) {i j : Nat}
    {a b : α} {x : β} (ha : l[i]? = some a) (hb : l[j]? = some b) (hga : g a = some x)
    (hgb : g b = some x) : i = j := by
  induction l generalizing i j with
  | nil => exact nomatch ha
  | cons c l ih =>
      have htail : (l.filterMap g).Nodup := by
        rw [List.filterMap_cons] at h
        split at h
        · exact h
        · exact (List.nodup_cons.mp h).2
      -- the head's value does not occur again
      have hhead : ∀ (k : Nat) (d : α), l[k]? = some d → g d = some x → g c = some x → False := by
        intro k d hd hgd hgc
        rw [List.filterMap_cons, hgc] at h
        exact (List.nodup_cons.mp h).1 (List.mem_filterMap.mpr ⟨d, List.mem_of_getElem? hd, hgd⟩)
      cases i with
      | zero =>
          cases j with
          | zero => rfl
          | succ j =>
              cases ha
              exact (hhead j b hb hgb hga).elim
      | succ i =>
          cases j with
          | zero =>
              cases hb
              exact (hhead i a ha hga hgb).elim
          | succ j => exact congrArg Nat.succ (ih htail ha hb)

/-- Giving a value to an entry that had none adds that value. -/
theorem filterMap_modify_perm {g : α → Option β} {l : List α} {f : α → α} {i : Nat} {a : α}
    {x : β} (ha : l[i]? = some a) (hga : g a = none) (hgf : g (f a) = some x) :
    ((l.modify i f).filterMap g).Perm (x :: l.filterMap g) := by
  induction l generalizing i with
  | nil => exact nomatch ha
  | cons c l ih =>
      cases i with
      | zero =>
          cases ha
          rw [List.modify_zero_cons, List.filterMap_cons, List.filterMap_cons, hgf, hga]
      | succ i =>
          rw [List.modify_succ_cons, List.filterMap_cons, List.filterMap_cons]
          cases g c with
          | none => exact ih ha
          | some y => exact ((ih ha).cons y).trans (List.Perm.swap x y _)

/-- The entry behind a value that a partial projection collects. -/
theorem getElem?_filterMap_inv {g : α → Option β} {l : List α} {r : Nat} {y : β}
    (h : (l.filterMap g)[r]? = some y) :
    ∃ a, (l.filter fun a => (g a).isSome)[r]? = some a ∧ g a = some y := by
  induction l generalizing r with
  | nil => exact nomatch h
  | cons c l ih =>
      rw [List.filterMap_cons] at h
      rw [List.filter_cons]
      cases hc : g c with
      | none =>
          rw [hc] at h
          exact ih h
      | some x =>
          rw [hc] at h
          cases r with
          | zero =>
              cases h
              exact ⟨c, rfl, hc⟩
          | succ r => exact ih h

/-- An entry of a list with one entry replaced. -/
theorem getElem?_set_inv {l : List α} {i j : Nat} {a b : α} (h : (l.set i a)[j]? = some b) :
    (i = j ∧ b = a) ∨ (i ≠ j ∧ l[j]? = some b) := by
  by_cases hij : i = j
  · subst hij
    rw [List.getElem?_set_self'] at h
    obtain ⟨-, -, rfl⟩ := Option.map_eq_some_iff.mp h
    exact .inl ⟨rfl, rfl⟩
  · rw [List.getElem?_set_ne hij] at h
    exact .inr ⟨hij, h⟩

/-- The values of a list of which one entry is replaced. -/
theorem filterMap_set_perm {g : α → Option β} {l : List α} {i : Nat} {a : α} (h : l[i]? = some a)
    (b : α) :
    ((l.set i b).filterMap g ++ (g a).toList).Perm (l.filterMap g ++ (g b).toList) := by
  induction l generalizing i with
  | nil => exact nomatch h
  | cons c l ih =>
      cases i with
      | zero =>
          obtain rfl := Option.some.inj h
          have hhead : ∀ d, (d :: l).filterMap g = (g d).toList ++ l.filterMap g := by
            intro d
            rw [List.filterMap_cons]
            cases g d <;> rfl
          rw [List.set_cons_zero, hhead, hhead, List.append_assoc, List.append_assoc]
          exact List.perm_append_comm.trans ((List.perm_append_comm.append_right _).trans
            (.of_eq (List.append_assoc _ _ _)))
      | succ i =>
          rw [List.set_cons_succ, List.filterMap_cons, List.filterMap_cons]
          cases g c with
          | none => exact ih h
          | some y => exact (ih h).cons y

/-- A sum of which one entry is replaced. -/
theorem sum_map_set {f : α → Nat} {l : List α} {i : Nat} {a : α} (h : l[i]? = some a) (b : α) :
    ((l.set i b).map f).sum + f a = (l.map f).sum + f b := by
  induction l generalizing i with
  | nil => exact nomatch h
  | cons c l ih =>
      cases i with
      | zero =>
          obtain rfl := Option.some.inj h
          simp only [List.set_cons_zero, List.map_cons, List.sum_cons]
          omega
      | succ i =>
          have := ih h
          simp only [List.set_cons_succ, List.map_cons, List.sum_cons]
          omega

/-- A sum over distinct entries of which one changes its value. -/
theorem sum_map_update {l : List α} {f g : α → Nat} {a : α} (hn : l.Nodup) (ha : a ∈ l)
    (h : ∀ b ∈ l, b ≠ a → g b = f b) : (l.map g).sum + f a = (l.map f).sum + g a := by
  induction l with
  | nil => exact nomatch ha
  | cons c l ih =>
      obtain ⟨hnotin, hn⟩ := List.nodup_cons.mp hn
      rw [List.map_cons, List.map_cons, List.sum_cons, List.sum_cons]
      obtain rfl | hmem := List.mem_cons.mp ha
      · have hrest : l.map g = l.map f := List.map_congr_left fun b hb =>
          h b (List.mem_cons_of_mem _ hb) fun hba => hnotin (hba ▸ hb)
        rw [hrest]
        omega
      · have hca : c ≠ a := fun hca => hnotin (hca ▸ hmem)
        have hc : g c = f c := h c List.mem_cons_self hca
        have := ih hn hmem fun b hb hne => h b (List.mem_cons_of_mem _ hb) hne
        omega

/-- Of distinct entries at most one meets a condition that no two of them
    meet. -/
theorem countP_le_one {p : α → Bool} {l : List α} (hn : l.Nodup)
    (hp : ∀ a ∈ l, ∀ b ∈ l, p a = true → p b = true → a = b) : l.countP p ≤ 1 := by
  induction l with
  | nil => exact Nat.zero_le _
  | cons a l ih =>
      obtain ⟨hnotin, hn⟩ := List.nodup_cons.mp hn
      rw [List.countP_cons]
      by_cases ha : p a = true
      · -- the others do not meet it
        have hzero : l.countP p = 0 := by
          refine List.countP_eq_zero.mpr ?_
          intro b hb hpb
          have hab := hp a (List.mem_cons_self ..) b (List.mem_cons_of_mem _ hb) ha hpb
          exact hnotin (hab ▸ hb)
        exact Nat.le_of_eq (by rw [hzero, if_pos ha])
      · rw [if_neg ha]
        exact ih hn fun b hb c hc => hp b (List.mem_cons_of_mem _ hb) c (List.mem_cons_of_mem _ hc)

/-- Rewriting one entry changes a count by that entry alone. -/
theorem countP_modify {p : α → Bool} {l : List α} {f : α → α} {i : Nat} {a : α}
    (h : l[i]? = some a) :
    (l.modify i f).countP p + (p a).toNat = l.countP p + (p (f a)).toNat := by
  induction l generalizing i with
  | nil => exact nomatch h
  | cons b l ih =>
      cases i with
      | zero =>
          cases h
          rw [List.modify_zero_cons, List.countP_cons, List.countP_cons]
          cases p a <;> cases p (f a) <;> simp
      | succ i =>
          rw [List.modify_succ_cons, List.countP_cons, List.countP_cons]
          have := ih (i := i) h
          omega

/-! ## Finite maps -/

section Map

variable {κ : Type} [DecidableEq κ] {m : Finmap fun _ : κ => β}

/-- An entry that an erasure leaves. -/
theorem lookup_erase_inv {k x : κ} {y : β} (h : (m.erase k).lookup x = some y) :
    m.lookup x = some y ∧ x ≠ k := by
  by_cases hne : x = k
  · subst hne
    rw [Finmap.lookup_erase] at h
    exact nomatch h
  · rw [Finmap.lookup_erase_ne hne] at h
    exact ⟨h, hne⟩

/-- Erasing what is not there. -/
theorem erase_absent {k : κ} (h : m.lookup k = none) : m.erase k = m := by
  refine Finmap.ext_lookup ?_
  intro x
  by_cases hx : x = k
  · rw [hx, Finmap.lookup_erase, h]
  · rw [Finmap.lookup_erase_ne hx]

theorem keys_erase_card_le (k : κ) : (m.erase k).keys.card ≤ m.keys.card := by
  refine Finset.card_le_card ?_
  intro x hx
  rw [Finmap.mem_keys] at hx ⊢
  exact (Finmap.mem_erase.mp hx).2

theorem keys_insert_card_le (k : κ) (v : β) : (m.insert k v).keys.card ≤ m.keys.card + 1 := by
  refine le_trans (Finset.card_le_card ?_) (Finset.card_insert_le k m.keys)
  intro x hx
  rw [Finmap.mem_keys, Finmap.mem_insert] at hx
  rw [Finset.mem_insert, Finmap.mem_keys]
  exact hx

end Map

/-! ## Lists of entries -/

section Lookup

variable {κ : Type} [BEq κ] [LawfulBEq κ] [DecidableEq κ]

theorem lookup_cons (k key : κ) (value : β) (entries : List (κ × β)) :
    ((key, value) :: entries).lookup k = if k = key then some value else entries.lookup k := by
  rw [List.lookup_cons]
  by_cases h : k = key
  · simp [h]
  · have hb : (k == key) = false := by simpa using h
    simp [h, hb]

/-- A list without a key twice gives exactly its entries. -/
theorem lookup_eq_some_iff {entries : List (κ × β)} (h : (entries.map Prod.fst).Nodup) {k : κ}
    {v : β} : entries.lookup k = some v ↔ (k, v) ∈ entries := by
  induction entries with
  | nil => exact iff_of_false nofun nofun
  | cons e entries ih =>
      obtain ⟨key, value⟩ := e
      rw [List.map_cons, List.nodup_cons] at h
      rw [lookup_cons, List.mem_cons]
      by_cases hk : k = key
      · subst hk
        have hfresh : (k, v) ∉ entries := fun hmem => h.1 (List.mem_map.mpr ⟨_, hmem, rfl⟩)
        simp [hfresh, eq_comm]
      · simp [hk, ih h.2]

end Lookup

/-! ## Lists side by side -/

/-- What stands in the first list has a partner in the second. -/
theorem exists_partner {R : α → β → Prop} {l : List α} {l' : List β} (h : List.Forall₂ R l l')
    {a : α} (ha : a ∈ l) : ∃ b ∈ l', R a b := by
  induction h with
  | nil => exact nomatch ha
  | cons hab _ ih =>
      rcases List.mem_cons.mp ha with rfl | ha
      · exact ⟨_, List.mem_cons_self .., hab⟩
      · obtain ⟨b, hb, hr⟩ := ih ha
        exact ⟨b, List.mem_cons_of_mem _ hb, hr⟩

end ListUpdate
