import Mathlib.Data.List.Forall2

/-! # Steps that may fail

    A computation in `Except` that ends well has gone well at each of its steps.
    `bind_eq_ok_iff` takes one step off, `mapM_eq_ok_iff` those of a list. -/

namespace ExceptStep

variable {ε α β : Type}

theorem bind_eq_ok_iff {x : Except ε α} {f : α → Except ε β} {b : β} :
    (x >>= f) = .ok b ↔ ∃ a, x = .ok a ∧ f a = .ok b := by
  constructor
  · intro h
    cases x with
    | error e => exact nomatch h
    | ok a => exact ⟨a, rfl, h⟩
  · rintro ⟨a, rfl, h⟩
    exact h

theorem mapM_eq_ok_iff {f : α → Except ε β} {l : List α} {l' : List β} :
    l.mapM f = .ok l' ↔ List.Forall₂ (fun a b => f a = .ok b) l l' := by
  induction l generalizing l' with
  | nil =>
      constructor
      · intro h
        obtain rfl : [] = l' := Except.ok.inj h
        exact .nil
      · intro h
        rw [List.forall₂_nil_left_iff.mp h]
        rfl
  | cons a l ih =>
      rw [List.mapM_cons, List.forall₂_cons_left_iff, bind_eq_ok_iff]
      constructor
      · rintro ⟨b, hb, h⟩
        obtain ⟨bs, hbs, h⟩ := bind_eq_ok_iff.mp h
        exact ⟨b, bs, hb, ih.mp hbs, (Except.ok.inj h).symm⟩
      · rintro ⟨b, bs, hb, hbs, rfl⟩
        exact ⟨b, hb, bind_eq_ok_iff.mpr ⟨bs, ih.mpr hbs, rfl⟩⟩

end ExceptStep
