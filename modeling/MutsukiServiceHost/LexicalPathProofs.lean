import Mathlib.Data.List.Basic

/-! # Lexical normalisation

    The names of a path are read from the left onto a stack: `.` does nothing,
    `..` takes a name off, and anything else is put on.  At the root `..` does
    nothing, and at the start of a relative path it is kept.

    `descend` reads names below a directory whose own path is not known, so it
    gives up when a `..` would leave that directory. -/

namespace LexicalPath

/-- One name, on the stack of those before it. -/
def push (root : Bool) (stack : List String) (name : String) : List String :=
  if name = "." then stack
  else if name = ".." then
    if stack.getLast? = none ∨ stack.getLast? = some ".." then
      if root then stack else stack ++ [".."]
    else stack.dropLast
  else stack ++ [name]

/-- The names of a path, normalised after those on the stack. -/
def walk (root : Bool) (stack names : List String) : List String := names.foldl (push root) stack

/-- The names below a directory, if the path never leaves it. -/
def descend : List String → List String → Option (List String)
  | stack, [] => some stack
  | stack, name :: names =>
      if name = "." then descend stack names
      else if name = ".." then
        if stack = [] then none else descend stack.dropLast names
      else descend (stack ++ [name]) names

/-- A name that is no step of its own. -/
def Plain (name : String) : Prop := name ≠ "." ∧ name ≠ ".."

theorem push_plain {root : Bool} {stack : List String} {name : String} (h : Plain name) :
    push root stack name = stack ++ [name] := by
  rw [push, if_neg h.1, if_neg h.2]

theorem walk_append (root : Bool) (stack names names' : List String) :
    walk root stack (names ++ names') = walk root (walk root stack names) names' :=
  List.foldl_append ..

theorem walk_plain {root : Bool} {names : List String} (h : ∀ name ∈ names, Plain name)
    (stack : List String) : walk root stack names = stack ++ names := by
  induction names generalizing stack with
  | nil => exact (List.append_nil stack).symm
  | cons name names ih =>
      obtain ⟨hname, hnames⟩ := List.forall_mem_cons.mp h
      rw [walk, List.foldl_cons, push_plain hname, ← walk, ih hnames, List.append_assoc,
        List.singleton_append]

/-- What is left out before makes no difference. -/
theorem walk_filter (root : Bool) (stack names : List String) :
    walk root stack (names.filter (· ≠ ".")) = walk root stack names := by
  induction names generalizing stack with
  | nil => rfl
  | cons name names ih =>
      by_cases hdot : name = "."
      · rw [List.filter_cons_of_neg (by simpa using hdot), ih, walk, walk, List.foldl_cons, push,
          if_pos hdot]
      · rw [List.filter_cons_of_pos (by simpa using hdot), walk, walk, List.foldl_cons,
          List.foldl_cons]
        exact ih _

/-- The names on the stack come from the path. -/
theorem mem_walk {stack names : List String} {name : String}
    (h : name ∈ walk true stack names) : name ∈ stack ∨ name ∈ names := by
  induction names generalizing stack with
  | nil => exact .inl h
  | cons first names ih =>
      rw [walk, List.foldl_cons] at h
      obtain h | h := ih h
      · rw [push] at h
        split at h
        · exact .inl h
        · split at h
          · split at h
            · exact .inl h
            · exact .inl (List.dropLast_subset _ h)
          · obtain h | h := List.mem_append.mp h
            · exact .inl h
            · exact .inr (List.mem_cons.mpr (.inl (List.mem_singleton.mp h)))
      · exact .inr (List.mem_cons_of_mem first h)

/-- **BELOW A DIRECTORY** the walk is the descent. -/
theorem walk_of_descend {root : Bool} {base stack names result : List String}
    (hplain : ∀ name ∈ stack, Plain name) (h : descend stack names = some result) :
    walk root (base ++ stack) names = base ++ result := by
  induction names generalizing stack with
  | nil =>
      obtain rfl := Option.some.inj h
      rfl
  | cons name names ih =>
      rw [walk, List.foldl_cons, push]
      rw [descend] at h
      by_cases hdot : name = "."
      · rw [if_pos hdot] at h ⊢
        exact ih hplain h
      · rw [if_neg hdot] at h ⊢
        by_cases hdots : name = ".."
        · rw [if_pos hdots] at h ⊢
          cases hstack : stack.getLast? with
          | none =>
              rw [if_pos (List.getLast?_eq_none_iff.mp hstack)] at h
              exact nomatch h
          | some last =>
              have hne : stack ≠ [] := by
                rintro rfl
                exact nomatch hstack
              have hlast : last ≠ ".." := (hplain last (List.mem_of_getLast? hstack)).2
              have htop : (base ++ stack).getLast? = some last := by
                rw [List.getLast?_append, hstack]
                rfl
              rw [if_neg hne] at h
              rw [if_neg (by rw [htop]; simp [hlast]), List.dropLast_append_of_ne_nil hne]
              exact ih (fun name hmem => hplain name (List.dropLast_subset _ hmem)) h
        · rw [if_neg hdots] at h ⊢
          rw [List.append_assoc]
          refine ih ?_ h
          intro other hmem
          obtain hmem | hmem := List.mem_append.mp hmem
          · exact hplain other hmem
          · obtain rfl := List.mem_singleton.mp hmem
            exact ⟨hdot, hdots⟩

/-- A path that leaves a directory of the root loses the directory's name. -/
theorem not_mem_walk_of_descend_none {dir : String} (hdir : Plain dir) {stack names : List String}
    (hstack : dir ∉ stack) (hnames : dir ∉ names) (h : descend stack names = none)
    (hplain : ∀ name ∈ stack, Plain name) : dir ∉ walk true (dir :: stack) names := by
  induction names generalizing stack with
  | nil => exact nomatch h
  | cons name names ih =>
      have hrest : dir ∉ names := fun hmem => hnames (List.mem_cons_of_mem name hmem)
      rw [walk, List.foldl_cons, push]
      rw [descend] at h
      by_cases hdot : name = "."
      · rw [if_pos hdot] at h ⊢
        exact ih hstack hrest h hplain
      · rw [if_neg hdot] at h ⊢
        by_cases hdots : name = ".."
        · rw [if_pos hdots] at h ⊢
          cases hlast : stack.getLast? with
          | none =>
              obtain rfl := List.getLast?_eq_none_iff.mp hlast
              have htop : ¬ ([dir].getLast? = none ∨ [dir].getLast? = some "..") := by
                simp [hdir.2]
              rw [if_neg htop]
              exact fun hmem => (mem_walk hmem).elim List.not_mem_nil hrest
          | some last =>
              have hne : stack ≠ [] := by
                rintro rfl
                exact nomatch hlast
              have hdotdot : last ≠ ".." := (hplain last (List.mem_of_getLast? hlast)).2
              have htop : (dir :: stack).getLast? = some last := by
                rw [List.getLast?_cons, hlast]
                rfl
              rw [if_neg hne] at h
              rw [if_neg (by rw [htop]; simp [hdotdot]), List.dropLast_cons_of_ne_nil hne]
              exact ih (fun hmem => hstack (List.dropLast_subset _ hmem)) hrest h
                fun other hmem => hplain other (List.dropLast_subset _ hmem)
        · rw [if_neg hdots] at h ⊢
          rw [List.cons_append]
          refine ih ?_ hrest h ?_
          · intro hmem
            obtain hmem | hmem := List.mem_append.mp hmem
            · exact hstack hmem
            · exact hnames (List.mem_cons.mpr (.inl (List.mem_singleton.mp hmem)))
          · intro other hmem
            obtain hmem | hmem := List.mem_append.mp hmem
            · exact hplain other hmem
            · obtain rfl := List.mem_singleton.mp hmem
              exact ⟨hdot, hdots⟩

end LexicalPath
