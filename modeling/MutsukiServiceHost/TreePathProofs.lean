import Mathlib.Data.List.Basic

/-! # Places in a tree

    A tree is looked into through its children: `child v k` is what stands under
    the label `k` of the node `v`.  A place is a list of labels, and an absent
    node has absent children.  Two trees agree off some places when they agree
    everywhere that is neither above nor below one of them. -/

namespace TreePath

variable {ν κ : Type} (child : ν → κ → Option ν)

/-- The child of a node that may be absent. -/
def step (node : Option ν) (k : κ) : Option ν := node.bind fun v => child v k

/-- What stands at a place. -/
def follow (node : Option ν) : List κ → Option ν
  | [] => node
  | k :: path => follow (step child node k) path

/-- Neither place is above the other. -/
def Apart (p q : List κ) : Prop := ¬ p <+: q ∧ ¬ q <+: p

/-- The nodes agree at every place apart from the given ones. -/
def SameOff (places : List (List κ)) (node node' : Option ν) : Prop :=
  ∀ q, (∀ p ∈ places, Apart p q) → follow child node' q = follow child node q

variable {child}

@[simp] theorem follow_none (place : List κ) : follow child none place = none := by
  induction place with
  | nil => rfl
  | cons k place ih => exact ih

theorem Apart.symm {p q : List κ} (h : Apart p q) : Apart q p := ⟨h.2, h.1⟩

theorem apart_cons {k : κ} {p q : List κ} : Apart (k :: p) (k :: q) ↔ Apart p q := by
  simp only [Apart, List.cons_prefix_cons, true_and]

theorem not_apart_nil (p : List κ) : ¬ Apart p [] := fun h => h.2 List.nil_prefix

theorem SameOff.refl (places : List (List κ)) (node : Option ν) : SameOff child places node node :=
  fun _ _ => rfl

/-- One change after the other. -/
theorem SameOff.trans {places places' : List (List κ)} {node node' node'' : Option ν}
    (h : SameOff child places node node') (h' : SameOff child places' node' node'') :
    SameOff child (places ++ places') node node'' := by
  intro q hq
  rw [List.forall_mem_append] at hq
  exact (h' q hq.2).trans (h q hq.1)

/-- A change at the root. -/
theorem SameOff.root (node node' : Option ν) : SameOff child [[]] node node' :=
  fun q hq => absurd (hq [] List.mem_cons_self).symm (not_apart_nil q)

/-- A change below one child. -/
theorem SameOff.below [DecidableEq κ] {node node' : Option ν} {k : κ} {place : List κ}
    (hother : ∀ k', k' ≠ k → step child node' k' = step child node k')
    (h : SameOff child [place] (step child node k) (step child node' k)) :
    SameOff child [k :: place] node node' := by
  intro q hq
  have hapart : Apart (k :: place) q := hq _ List.mem_cons_self
  cases q with
  | nil => exact absurd hapart (not_apart_nil _)
  | cons k' q =>
      rw [follow, follow]
      by_cases hk : k' = k
      · subst hk
        refine h q fun p hp => ?_
        obtain rfl := List.mem_singleton.mp hp
        exact apart_cons.mp hapart
      · rw [hother k' hk]

end TreePath
