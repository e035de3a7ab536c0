import Mathlib.Data.List.SplitBy
import Mathlib.Data.List.Sort

/-! # Groups of a sorted list

    A list that is sorted by a key and cut wherever the key changes
    (`List.splitBy`) falls into one group for each key, so a group is what
    filtering by its key gives.  The members that stand alone in their group are
    those whose key occurs once, and they come in the order of the keys. -/

namespace SortedGroup

variable {α κ : Type} {key : α → κ} {cmp : κ → κ → Ordering} {l : List α}

/-- An order on keys orders what has them. -/
theorem transCmp_on (cmp : κ → κ → Ordering) (f : α → κ) [Std.TransCmp cmp] :
    Std.TransCmp fun a b => cmp (f a) (f b) where
  eq_swap := Std.OrientedCmp.eq_swap
  isLE_trans := Std.TransCmp.isLE_trans

/-- Sorting by an order that compares keys first sorts the keys. -/
theorem sorted_mergeSort {second : α → α → Ordering} [Std.TransCmp cmp] [Std.TransCmp second]
    (key : α → κ) (l : List α) :
    (l.mergeSort fun a b => ((cmp (key a) (key b)).then (second a b)).isLE).Pairwise
      fun a b => (cmp (key a) (key b)).isLE := by
  have hkey := transCmp_on cmp key
  have horder : Std.TransCmp (compareLex (fun a b => cmp (key a) (key b)) second) := inferInstance
  have htrans : ∀ a b c : α, ((cmp (key a) (key b)).then (second a b)).isLE = true →
      ((cmp (key b) (key c)).then (second b c)).isLE = true →
      ((cmp (key a) (key c)).then (second a c)).isLE = true :=
    fun _ _ _ => horder.isLE_trans
  have htotal : ∀ a b : α, (((cmp (key a) (key b)).then (second a b)).isLE ||
      ((cmp (key b) (key a)).then (second b a)).isLE) = true := by
    intro a b
    by_cases hab : ((cmp (key a) (key b)).then (second a b)).isLE = true
    · rw [hab, Bool.true_or]
    · have hlt : compareLex (fun a b => cmp (key a) (key b)) second b a = .lt :=
        Std.OrientedCmp.lt_of_not_isLE hab
      have hba : ((cmp (key b) (key a)).then (second b a)).isLE = true :=
        Ordering.isLE_of_eq_lt hlt
      rw [hba, Bool.or_true]
  exact (List.pairwise_mergeSort htrans htotal l).imp
    Ordering.isLE_left_of_isLE_then

/-- Two groups, the keys of the first before those of the second. -/
def GroupLt (cmp : κ → κ → Ordering) (key : α → κ) (g h : List α) : Prop :=
  g ≠ [] ∧ h ≠ [] ∧ ∀ a ∈ g, ∀ b ∈ h, cmp (key a) (key b) = .lt

theorem GroupLt.trans [Std.TransCmp cmp] {g h k : List α} (hgh : GroupLt cmp key g h)
    (hhk : GroupLt cmp key h k) : GroupLt cmp key g k := by
  refine ⟨hgh.1, hhk.2.1, fun a ha c hc => ?_⟩
  obtain ⟨b, hb⟩ := List.exists_mem_of_ne_nil h hgh.2.1
  exact Std.TransCmp.lt_trans (hgh.2.2 a ha b hb) (hhk.2.2 b hb c hc)

/-- Filters with one member do not see the order. -/
theorem filter_eq_singleton_of_perm {l l' : List α} {p : α → Bool} {a : α} (hperm : l.Perm l') :
    l.filter p = [a] ↔ l'.filter p = [a] := by
  rw [← List.perm_singleton, ← List.perm_singleton]
  exact (hperm.filter p).congr_left [a]

/-- A search for what is there at most once does not see the order. -/
theorem find?_eq_of_perm {l l' : List α} {p : α → Bool} (hperm : l.Perm l')
    (hunique : ∀ a ∈ l, ∀ b ∈ l, p a = true → p b = true → a = b) : l.find? p = l'.find? p := by
  cases hfind : l.find? p with
  | none =>
      rw [List.find?_eq_none] at hfind
      exact (List.find?_eq_none.mpr fun a ha => hfind a (hperm.mem_iff.mpr ha)).symm
  | some a =>
      cases hfind' : l'.find? p with
      | none =>
          rw [List.find?_eq_none] at hfind'
          exact absurd (List.find?_some hfind)
            (hfind' a (hperm.mem_iff.mp (List.mem_of_find?_eq_some hfind)))
      | some b =>
          have hb : b ∈ l := hperm.mem_iff.mpr (List.mem_of_find?_eq_some hfind')
          rw [hunique a (List.mem_of_find?_eq_some hfind) b hb (List.find?_some hfind)
            (List.find?_some hfind')]

/-! ## Groups -/

variable [BEq κ]

/-- The groups of equal keys. -/
def groups (key : α → κ) (l : List α) : List (List α) :=
  l.splitBy fun a b => key a == key b

theorem flatten_groups (key : α → κ) (l : List α) : (groups key l).flatten = l :=
  List.flatten_splitBy _ l

/-- Every member stands in a group. -/
theorem exists_group (key : α → κ) {a : α} (ha : a ∈ l) : ∃ g ∈ groups key l, a ∈ g := by
  rw [← flatten_groups key l] at ha
  exact List.mem_flatten.mp ha

variable [LawfulBEq κ]

/-- One key in a group. -/
theorem same_key {g : List α} (hg : g ∈ groups key l) {a b : α} (ha : a ∈ g) (hb : b ∈ g) :
    key a = key b := by
  have hchain : (g.map key).IsChain Eq :=
    (List.isChain_map key).mpr ((List.isChain_of_mem_splitBy hg).imp fun a b h => by simpa using h)
  have hpair : (g.map key).Pairwise Eq := hchain.pairwise
  exact List.Pairwise.forall_of_forall (fun _ _ => rfl) hpair (List.mem_map_of_mem ha)
    (List.mem_map_of_mem hb)

variable [Std.TransCmp cmp] [Std.LawfulEqCmp cmp]

/-- The keys of the groups of a sorted list increase. -/
theorem groups_lt (hsorted : l.Pairwise fun a b => (cmp (key a) (key b)).isLE) :
    (groups key l).Pairwise (GroupLt cmp key) := by
  have hle : (groups key l).Pairwise fun g h =>
      ∀ a ∈ g, ∀ b ∈ h, (cmp (key a) (key b)).isLE := by
    rw [← flatten_groups key l, List.pairwise_flatten] at hsorted
    exact hsorted.2
  have hne := List.isChain_getLast_head_splitBy (fun a b => key a == key b) l
  have : IsTrans (List α) (GroupLt cmp key) := ⟨fun _ _ _ => GroupLt.trans⟩
  apply List.IsChain.pairwise
  -- between neighbours the key changes, so it grows
  rw [List.isChain_iff_getElem]
  intro i hi
  obtain ⟨hg, hh, hkey⟩ := (List.isChain_iff_getElem.mp hne) i hi
  refine ⟨hg, hh, fun a ha b hb => ?_⟩
  have hab := (List.pairwise_iff_getElem.mp hle) i (i + 1) (by omega) hi (by omega) a ha b hb
  have hlast : key ((groups key l)[i].getLast hg) = key a :=
    same_key (List.getElem_mem _) (List.getLast_mem hg) ha
  have hhead : key ((groups key l)[i + 1].head hh) = key b :=
    same_key (List.getElem_mem _) (List.head_mem hh) hb
  have hkeys : key a ≠ key b := by
    rw [← hlast, ← hhead]
    exact beq_eq_false_iff_ne.mp hkey
  have heq : cmp (key a) (key b) ≠ .eq := fun h => hkeys (Std.LawfulEqCmp.eq_of_compare h)
  cases hcmp : cmp (key a) (key b) with
  | lt => rfl
  | eq => exact absurd hcmp heq
  | gt => rw [hcmp] at hab; exact absurd hab (by decide)

/-- A group of a sorted list is all of its key. -/
theorem group_eq_filter (hsorted : l.Pairwise fun a b => (cmp (key a) (key b)).isLE) {g : List α}
    (hg : g ∈ groups key l) {a : α} (ha : a ∈ g) : l.filter (fun b => key b == key a) = g := by
  have hlt := groups_lt hsorted
  obtain ⟨before, after, hgs⟩ := List.append_of_mem hg
  have hflat := flatten_groups key l
  rw [hgs, List.pairwise_append, List.pairwise_cons] at hlt
  obtain ⟨-, ⟨hafter, -⟩, hbefore⟩ := hlt
  have hself : cmp (key a) (key a) = .eq := Std.ReflCmp.compare_self
  have hother : ∀ b, cmp (key b) (key a) = .lt ∨ cmp (key a) (key b) = .lt → key b ≠ key a := by
    rintro b (h | h) heq <;> rw [heq, hself] at h <;> exact absurd h (by decide)
  have hfirst : before.flatten.filter (fun b => key b == key a) = [] := by
    rw [List.filter_eq_nil_iff]
    intro b hb
    obtain ⟨h, hh, hbh⟩ := List.mem_flatten.mp hb
    have := hother b (.inl ((hbefore h hh g (List.mem_cons_self ..)).2.2 b hbh a ha))
    simpa using this
  have hrest : after.flatten.filter (fun b => key b == key a) = [] := by
    rw [List.filter_eq_nil_iff]
    intro b hb
    obtain ⟨h, hh, hbh⟩ := List.mem_flatten.mp hb
    have := hother b (.inr ((hafter h hh).2.2 a ha b hbh))
    simpa using this
  have hgroup : g.filter (fun b => key b == key a) = g := by
    rw [List.filter_eq_self]
    intro b hb
    simpa using same_key hg hb ha
  rw [← hflat, hgs, List.flatten_append, List.flatten_cons, List.filter_append, List.filter_append,
    hfirst, hrest, hgroup, List.nil_append, List.append_nil]

/-- The member of a group that has no other. -/
def alone : List α → Option α
  | [a] => some a
  | _ => none

/-- The members whose group has no other. -/
def singles (key : α → κ) (l : List α) : List α := (groups key l).filterMap alone

theorem alone_eq_some {g : List α} {a : α} : alone g = some a ↔ g = [a] := by
  match g with
  | [] => simp [alone]
  | [b] => simp [alone]
  | b :: c :: g => simp [alone]

/-- **THE SINGLES OF A SORTED LIST** are the members whose key occurs once. -/
theorem mem_singles (hsorted : l.Pairwise fun a b => (cmp (key a) (key b)).isLE) {a : α} :
    a ∈ singles key l ↔ l.filter (fun b => key b == key a) = [a] := by
  rw [singles, List.mem_filterMap]
  constructor
  · rintro ⟨g, hg, halone⟩
    rw [alone_eq_some] at halone
    subst halone
    exact group_eq_filter hsorted hg (List.mem_singleton.mpr rfl)
  · intro hfilter
    have ha : a ∈ l := by
      have : a ∈ l.filter fun b => key b == key a := by
        rw [hfilter]
        exact List.mem_singleton.mpr rfl
      exact (List.mem_filter.mp this).1
    obtain ⟨g, hg, hag⟩ := exists_group key ha
    refine ⟨g, hg, ?_⟩
    rw [alone_eq_some, ← group_eq_filter hsorted hg hag, hfilter]

/-- The singles come in the order of their keys. -/
theorem singles_lt (hsorted : l.Pairwise fun a b => (cmp (key a) (key b)).isLE) :
    (singles key l).Pairwise fun a b => cmp (key a) (key b) = .lt := by
  rw [singles, List.pairwise_filterMap]
  refine (groups_lt hsorted).imp ?_
  rintro g h hlt a ha b hb
  rw [alone_eq_some] at ha hb
  subst ha hb
  exact hlt.2.2 a (List.mem_singleton.mpr rfl) b (List.mem_singleton.mpr rfl)

/-- Sorting a permuted list gives the same singles. -/
theorem singles_perm {l' : List α} (hperm : l.Perm l')
    (hsorted : l.Pairwise fun a b => (cmp (key a) (key b)).isLE)
    (hsorted' : l'.Pairwise fun a b => (cmp (key a) (key b)).isLE) :
    singles key l = singles key l' := by
  have hasymm : Std.Asymm fun a b : α => cmp (key a) (key b) = .lt :=
    ⟨fun a b hab hba => by
      have hself : cmp (key a) (key a) = .eq := Std.ReflCmp.compare_self
      exact nomatch hself.symm.trans (Std.TransCmp.lt_trans hab hba)⟩
  have hirrefl : Std.Irrefl fun a b : α => cmp (key a) (key b) = .lt :=
    ⟨fun a haa => hasymm.asymm a a haa haa⟩
  refine List.Pairwise.eq_of_mem_iff (singles_lt hsorted) (singles_lt hsorted') fun a => ?_
  rw [mem_singles hsorted, mem_singles hsorted']
  exact filter_eq_singleton_of_perm hperm

/-! ## Lists with one member of a kind -/

/-- A list keeps exactly one member under `f` where one index does. -/
theorem filterMap_eq_singleton_iff {β γ : Type} {f : β → Option γ} {bs : List β} {c : γ} :
    bs.filterMap f = [c] ↔
      ∃ i : Nat, (∃ b, bs[i]? = some b ∧ f b = some c) ∧
        ∀ (j : Nat) (b : β), bs[j]? = some b → (f b).isSome → j = i := by
  induction bs with
  | nil => simp
  | cons b bs ih =>
      cases hb : f b with
      | none =>
          rw [List.filterMap_cons_none hb, ih]
          constructor
          · rintro ⟨i, hi, honly⟩
            refine ⟨i + 1, by simpa using hi, fun j b' hj hsome => ?_⟩
            cases j with
            | zero =>
                obtain rfl : b = b' := by simpa using hj
                rw [hb] at hsome
                exact nomatch hsome
            | succ j => rw [honly j b' (by simpa using hj) hsome]
          · rintro ⟨i, ⟨b', hi, hc⟩, honly⟩
            cases i with
            | zero =>
                obtain rfl : b = b' := by simpa using hi
                rw [hb] at hc
                exact nomatch hc
            | succ i =>
                refine ⟨i, ⟨b', by simpa using hi, hc⟩, fun j b'' hj hsome => ?_⟩
                have := honly (j + 1) b'' (by simpa using hj) hsome
                omega
      | some c' =>
          rw [List.filterMap_cons_some hb, List.cons_eq_cons, List.filterMap_eq_nil_iff]
          constructor
          · rintro ⟨rfl, hnone⟩
            refine ⟨0, ⟨b, by simp, hb⟩, fun j b' hj hsome => ?_⟩
            cases j with
            | zero => rfl
            | succ j =>
                have hmem : b' ∈ bs := List.mem_of_getElem? (by simpa using hj)
                rw [hnone b' hmem] at hsome
                exact nomatch hsome
          · rintro ⟨i, ⟨b', hi, hc⟩, honly⟩
            obtain rfl : 0 = i := honly 0 b (by simp) (by simp [hb])
            obtain rfl : b = b' := by simpa using hi
            refine ⟨Option.some.inj (hb.symm.trans hc), fun b' hmem => ?_⟩
            obtain ⟨j, hj⟩ := List.getElem?_of_mem hmem
            by_contra hsome
            have := honly (j + 1) b' (by simpa using hj) (Option.isSome_iff_ne_none.mpr hsome)
            omega

end SortedGroup
