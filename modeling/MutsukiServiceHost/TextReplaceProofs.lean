import Mathlib.Data.List.Infix

/-! # Replacing in a text

    A text is read from the left.  At each position `found` may find something to
    replace: it gives what is written instead, and how many characters after the
    first one it stands for.  Reading goes on behind them.

    * `replaceFrom_eq_self_iff` — if what is written is shorter than what it
      stands for, a text stays what it is exactly if nothing is found at any of
      its positions.
    * `flatMap_eq_self` — the same for lists in which each entry becomes at most
      one. -/

namespace TextReplace

variable {α : Type} (found : List α → Option (List α × Nat))

/-- The text with everything replaced, `covered` characters of it being left out. -/
def replaceFrom : Nat → List α → List α
  | _, [] => []
  | covered + 1, _ :: text => replaceFrom covered text
  | 0, c :: text =>
      match found (c :: text) with
      | some (written, covered) => written ++ replaceFrom covered text
      | none => c :: replaceFrom 0 text

@[simp] theorem replaceFrom_nil (covered : Nat) : replaceFrom found covered [] = [] := by
  cases covered <;> rfl

@[simp] theorem replaceFrom_succ (covered : Nat) (c : α) (text : List α) :
    replaceFrom found (covered + 1) (c :: text) = replaceFrom found covered text := rfl

variable {found}

theorem replaceFrom_of_none {c : α} {text : List α} (h : found (c :: text) = none) :
    replaceFrom found 0 (c :: text) = c :: replaceFrom found 0 text := by
  rw [replaceFrom, h]

theorem replaceFrom_of_some {c : α} {text written : List α} {covered : Nat}
    (h : found (c :: text) = some (written, covered)) :
    replaceFrom found 0 (c :: text) = written ++ replaceFrom found covered text := by
  rw [replaceFrom, h]

/-! ## Texts that stay -/

/-- Where nothing is found, nothing changes. -/
theorem replaceFrom_eq_self {text : List α} (h : ∀ rest, rest <:+ text → found rest = none) :
    replaceFrom found 0 text = text := by
  induction text with
  | nil => rfl
  | cons c text ih =>
      rw [replaceFrom_of_none (h _ (List.suffix_refl _)),
        ih fun rest hrest => h rest (hrest.trans (List.suffix_cons c text))]

variable (found) in
/-- What is written is shorter than what it stands for, which lies in the text. -/
def Shrinks : Prop :=
  ∀ c text written covered, found (c :: text) = some (written, covered) →
    written.length ≤ covered ∧ covered ≤ text.length

theorem length_replaceFrom_le (h : Shrinks found) (covered : Nat) (text : List α) :
    (replaceFrom found covered text).length ≤ text.length - covered := by
  induction text generalizing covered with
  | nil =>
      rw [replaceFrom_nil]
      exact Nat.zero_le _
  | cons c text ih =>
      cases covered with
      | succ covered =>
          rw [replaceFrom_succ, List.length_cons, Nat.add_sub_add_right]
          exact ih covered
      | zero =>
          cases hfound : found (c :: text) with
          | none =>
              have hrest := ih 0
              rw [replaceFrom_of_none hfound, List.length_cons, List.length_cons]
              omega
          | some hit =>
              obtain ⟨written, covered⟩ := hit
              obtain ⟨hwritten, hcovered⟩ := h c text written covered hfound
              have hrest := ih covered
              rw [replaceFrom_of_some hfound, List.length_append, List.length_cons]
              omega

/-- The first thing found makes the text shorter. -/
theorem replaceFrom_eq_self_iff (h : Shrinks found) (hnil : found [] = none) {text : List α} :
    replaceFrom found 0 text = text ↔ ∀ rest, rest <:+ text → found rest = none := by
  refine ⟨fun hself => ?_, replaceFrom_eq_self⟩
  induction text with
  | nil =>
      intro rest hrest
      rw [List.suffix_nil.mp hrest]
      exact hnil
  | cons c text ih =>
      cases hfound : found (c :: text) with
      | none =>
          rw [replaceFrom_of_none hfound] at hself
          have htail := ih (List.cons.inj hself).2
          intro rest hrest
          obtain rfl | hrest := List.suffix_cons_iff.mp hrest
          · exact hfound
          · exact htail rest hrest
      | some hit =>
          obtain ⟨written, covered⟩ := hit
          obtain ⟨hwritten, hcovered⟩ := h c text written covered hfound
          have hrest := length_replaceFrom_le h covered text
          have hlen := congrArg List.length hself
          rw [replaceFrom_of_some hfound, List.length_append, List.length_cons] at hlen
          omega

/-! ## Lists that stay -/

theorem length_flatMap_le {f : α → List α} (h : ∀ a, (f a).length ≤ 1) (l : List α) :
    (l.flatMap f).length ≤ l.length := by
  induction l with
  | nil => exact Nat.le_refl _
  | cons a l ih =>
      have ha := h a
      rw [List.flatMap_cons, List.length_append, List.length_cons]
      omega

/-- A list stays what it is only if each of its entries does. -/
theorem flatMap_eq_self {f : α → List α} (h : ∀ a, (f a).length ≤ 1) {l : List α} :
    l.flatMap f = l ↔ ∀ a ∈ l, f a = [a] := by
  constructor
  · intro hself
    induction l with
    | nil => exact List.forall_mem_nil _
    | cons a l ih =>
        rw [List.flatMap_cons] at hself
        have hlen := congrArg List.length hself
        have htail := length_flatMap_le h l
        rw [List.length_append, List.length_cons] at hlen
        obtain ⟨b, hb⟩ : ∃ b, f a = [b] :=
          List.length_eq_one_iff.mp (Nat.le_antisymm (h a) (by omega))
        rw [hb, List.singleton_append] at hself
        obtain ⟨rfl, hrest⟩ := List.cons.inj hself
        exact List.forall_mem_cons.mpr ⟨hb, ih hrest⟩
  · intro hall
    induction l with
    | nil => rfl
    | cons a l ih =>
        obtain ⟨ha, htail⟩ := List.forall_mem_cons.mp hall
        rw [List.flatMap_cons, ha, ih htail, List.singleton_append]

end TextReplace
