import Mathlib.Data.List.Basic

/-! # Lines of a list

    `splitAfter sep` cuts a list after every separator, so a piece keeps the
    separator that ends it, and only the last piece may lack one.  Cutting the
    parts of a list one by one gives the pieces of the whole exactly when no cut
    between parts falls inside a piece.  `placed` lays pieces out one after the
    other and hands each its position. -/

namespace LineSplit

variable {α β : Type}

section Split

variable [DecidableEq α] {sep : α}

/-- The pieces of a list, each with its separator. -/
def splitAfter (sep : α) : List α → List (List α)
  | [] => []
  | a :: l =>
      if a = sep then [a] :: splitAfter sep l
      else match splitAfter sep l with
        | [] => [[a]]
        | piece :: pieces => (a :: piece) :: pieces

theorem flatten_splitAfter (sep : α) (l : List α) : (splitAfter sep l).flatten = l := by
  induction l with
  | nil => rfl
  | cons a l ih =>
      rw [splitAfter]
      by_cases ha : a = sep
      · rw [if_pos ha, List.flatten_cons, ih]
        rfl
      · rw [if_neg ha]
        cases hl : splitAfter sep l with
        | nil =>
            rw [hl] at ih
            rw [← ih]
            rfl
        | cons piece pieces =>
            rw [hl, List.flatten_cons] at ih
            rw [← ih]
            rfl

theorem splitAfter_eq_nil {l : List α} (h : splitAfter sep l = []) : l = [] := by
  rw [← flatten_splitAfter sep l, h]
  rfl

/-- A piece without its separator is the last one. -/
theorem splitAfter_of_not_mem {line : List α} (h : sep ∉ line) (hne : line ≠ []) :
    splitAfter sep line = [line] := by
  induction line with
  | nil => exact absurd rfl hne
  | cons a line ih =>
      obtain ⟨ha, hline⟩ := not_or.mp (List.mem_cons.not.mp h)
      rw [splitAfter, if_neg (Ne.symm ha)]
      cases line with
      | nil => rfl
      | cons b line => rw [ih hline (List.cons_ne_nil b line)]

/-- The first piece ends with the first separator. -/
theorem splitAfter_line {line : List α} (h : sep ∉ line) (rest : List α) :
    splitAfter sep (line ++ sep :: rest) = (line ++ [sep]) :: splitAfter sep rest := by
  induction line with
  | nil => rw [List.nil_append, splitAfter, if_pos rfl, List.nil_append]
  | cons a line ih =>
      obtain ⟨ha, hline⟩ := not_or.mp (List.mem_cons.not.mp h)
      rw [List.cons_append, splitAfter, if_neg (Ne.symm ha), ih hline, List.cons_append]

/-- A piece is a text and its separator, or a last text without one. -/
theorem mem_splitAfter {l piece : List α} (h : piece ∈ splitAfter sep l) :
    (∃ text, sep ∉ text ∧ piece = text ++ [sep]) ∨ (sep ∉ piece ∧ piece ≠ []) := by
  induction l generalizing piece with
  | nil => exact nomatch h
  | cons a l ih =>
      rw [splitAfter] at h
      by_cases ha : a = sep
      · rw [if_pos ha] at h
        obtain rfl | h := List.mem_cons.mp h
        · exact Or.inl ⟨[], List.not_mem_nil, by rw [ha, List.nil_append]⟩
        · exact ih h
      · rw [if_neg ha] at h
        cases hl : splitAfter sep l with
        | nil =>
            rw [hl] at h
            rw [List.mem_singleton.mp h]
            exact Or.inr ⟨by simpa using Ne.symm ha, List.cons_ne_nil a []⟩
        | cons first pieces =>
            rw [hl] at h ih
            obtain rfl | h := List.mem_cons.mp h
            · obtain ⟨text, htext, rfl⟩ | ⟨hfirst, -⟩ := ih List.mem_cons_self
              · exact Or.inl ⟨a :: text,
                  List.mem_cons.not.mpr (not_or.mpr ⟨Ne.symm ha, htext⟩), rfl⟩
              · exact Or.inr ⟨List.mem_cons.not.mpr (not_or.mpr ⟨Ne.symm ha, hfirst⟩),
                  List.cons_ne_nil a first⟩
            · exact ih (List.mem_cons_of_mem _ h)

/-! ## Cuts -/

/-- Behind a separator the pieces start anew. -/
theorem splitAfter_append {a b : List α} (h : a = [] ∨ a.getLast? = some sep ∨ b = []) :
    splitAfter sep (a ++ b) = splitAfter sep a ++ splitAfter sep b := by
  induction a with
  | nil => rfl
  | cons x a ih =>
      have htail : a = [] ∨ a.getLast? = some sep ∨ b = [] := by
        rcases h with h | h | h
        · exact nomatch h
        · cases a with
          | nil => exact Or.inl rfl
          | cons y a => exact Or.inr (Or.inl (by rwa [List.getLast?_cons_cons] at h))
        · exact Or.inr (Or.inr h)
      rw [List.cons_append, splitAfter, splitAfter, ih htail]
      by_cases hx : x = sep
      · rw [if_pos hx, if_pos hx, List.cons_append]
      · rw [if_neg hx, if_neg hx]
        cases ha : splitAfter sep a with
        | cons piece pieces => rfl
        | nil =>
            -- only a last piece has no separator
            have hb : b = [] := by
              rw [splitAfter_eq_nil ha] at h
              rcases h with h | h | h
              · exact nomatch h
              · exact absurd (Option.some.inj h) hx
              · exact h
            rw [hb]
            rfl

/-- A piece that is not the last one has its separator. -/
theorem getLast?_of_split {l piece : List α} {before after : List (List α)}
    (h : splitAfter sep l = before ++ piece :: after) (hafter : after ≠ []) :
    piece.getLast? = some sep := by
  induction l generalizing before piece after with
  | nil =>
      rw [splitAfter] at h
      exact absurd h.symm (List.append_ne_nil_of_right_ne_nil _ (List.cons_ne_nil _ _))
  | cons a l ih =>
      rw [splitAfter] at h
      by_cases ha : a = sep
      · rw [if_pos ha] at h
        cases before with
        | nil =>
            rw [← (List.cons.inj h).1, ha]
            rfl
        | cons first before => exact ih (List.cons.inj h).2 hafter
      · rw [if_neg ha] at h
        cases hl : splitAfter sep l with
        | nil =>
            rw [hl] at h
            cases before with
            | nil => exact absurd (List.cons.inj h).2.symm hafter
            | cons first before =>
                exact absurd (List.cons.inj h).2.symm
                  (List.append_ne_nil_of_right_ne_nil _ (List.cons_ne_nil _ _))
        | cons first pieces =>
            rw [hl] at h
            cases before with
            | nil =>
                obtain ⟨hpiece, hpieces⟩ := List.cons.inj h
                have hl' : splitAfter sep l = [] ++ first :: after := hl.trans (congrArg _ hpieces)
                have hfirst : first.getLast? = some sep := ih hl' hafter
                rw [← hpiece]
                cases first with
                | nil => exact nomatch hfirst
                | cons b first => rw [List.getLast?_cons_cons, hfirst]
            | cons other before =>
                have hl' : splitAfter sep l = (first :: before) ++ piece :: after :=
                  hl.trans (congrArg _ (List.cons.inj h).2)
                exact ih hl' hafter

/-- When the pieces of a first part begin the pieces of the whole, nothing is cut
    behind it. -/
theorem cut_of_split {a b : List α} {pieces : List (List α)}
    (h : splitAfter sep (a ++ b) = splitAfter sep a ++ pieces) (hb : pieces.flatten = b) :
    a = [] ∨ a.getLast? = some sep ∨ b = [] := by
  rcases List.eq_nil_or_concat (splitAfter sep a) with ha | ⟨before, piece, ha⟩
  · exact Or.inl (splitAfter_eq_nil ha)
  · by_cases hpieces : pieces = []
    · exact Or.inr (Or.inr (by rw [← hb, hpieces, List.flatten_nil]))
    · refine Or.inr (Or.inl ?_)
      rw [List.concat_eq_append] at ha
      rw [ha, List.append_assoc] at h
      have hpiece : piece.getLast? = some sep := getLast?_of_split h hpieces
      rw [← flatten_splitAfter sep a, ha, List.flatten_append, List.flatten_singleton,
        List.getLast?_append, hpiece, Option.some_or]

/-- **CUTS**: the pieces of two parts are the pieces of the whole exactly when
    the cut is behind a separator or at an end. -/
theorem splitAfter_append_iff {a b : List α} :
    splitAfter sep (a ++ b) = splitAfter sep a ++ splitAfter sep b ↔
      a = [] ∨ a.getLast? = some sep ∨ b = [] := by
  constructor
  · intro h
    exact cut_of_split h (flatten_splitAfter sep b)
  · exact splitAfter_append

end Split

/-! ## Positions -/

section Placed

variable {f g : Nat → List α → β} {pieces pieces' : List (List α)} {o : Nat}

/-- The pieces laid out from a position on. -/
def placed (f : Nat → List α → β) : Nat → List (List α) → List β
  | _, [] => []
  | o, piece :: pieces => f o piece :: placed f (o + piece.length) pieces

theorem length_placed : (placed f o pieces).length = pieces.length := by
  induction pieces generalizing o with
  | nil => rfl
  | cons piece pieces ih => rw [placed, List.length_cons, List.length_cons, ih]

theorem placed_append :
    placed f o (pieces ++ pieces')
      = placed f o pieces ++ placed f (o + pieces.flatten.length) pieces' := by
  induction pieces generalizing o with
  | nil => rfl
  | cons piece pieces ih =>
      rw [List.cons_append, placed, placed, ih, List.cons_append, List.flatten_cons,
        List.length_append, Nat.add_assoc]

/-- What does not depend on the position. -/
theorem map_placed {γ : Type} {h : β → γ} {k : List α → γ}
    (hk : ∀ o piece, h (f o piece) = k piece) :
    (placed f o pieces).map h = pieces.map k := by
  induction pieces generalizing o with
  | nil => rfl
  | cons piece pieces ih => rw [placed, List.map_cons, List.map_cons, ih, hk]

theorem placed_congr (h : ∀ piece ∈ pieces, ∀ o, f o piece = g o piece) :
    placed f o pieces = placed g o pieces := by
  induction pieces generalizing o with
  | nil => rfl
  | cons piece pieces ih =>
      obtain ⟨hpiece, hpieces⟩ := List.forall_mem_cons.mp h
      rw [placed, placed, hpiece, ih hpieces]

/-- Positions that can be read off say how a list was cut. -/
theorem placed_inj (position : β → Nat) (hf : ∀ o piece, position (f o piece) = o)
    (hg : ∀ o piece, position (g o piece) = o) (hflatten : pieces.flatten = pieces'.flatten)
    (h : placed f o pieces = placed g o pieces') : pieces = pieces' := by
  induction pieces generalizing pieces' o with
  | nil =>
      cases pieces' with
      | nil => rfl
      | cons piece' pieces' => exact nomatch h
  | cons piece pieces ih =>
      cases pieces' with
      | nil => exact nomatch h
      | cons piece' pieces' =>
          obtain ⟨-, hrest⟩ := List.cons.inj h
          rw [List.flatten_cons, List.flatten_cons] at hflatten
          have hlength : piece.length = piece'.length := by
            -- the next positions are the same, or both are last
            cases pieces with
            | nil =>
                cases pieces' with
                | nil => simpa using congrArg List.length hflatten
                | cons next' pieces' => exact nomatch hrest
            | cons next pieces =>
                cases pieces' with
                | nil => exact nomatch hrest
                | cons next' pieces' =>
                    have hnext := congrArg position (List.cons.inj hrest).1
                    rw [hf, hg] at hnext
                    exact Nat.add_left_cancel hnext
          obtain ⟨rfl, htail⟩ := List.append_inj hflatten hlength
          rw [ih htail hrest]

end Placed

end LineSplit
