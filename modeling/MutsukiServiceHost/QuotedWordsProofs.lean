import Mathlib.Data.List.Basic

/-! # Quoted words

    A command line as words between quotation marks with blanks between them.
    In a word a backslash stands before a quotation mark and before a backslash,
    and before nothing else.  What is written this way is read back, whatever
    the words. -/

namespace QuotedWords

/-- The characters with a meaning of their own. -/
structure Quoting (α : Type) where
  mark : α
  backslash : α
  blank : α
  mark_ne_backslash : mark ≠ backslash
  blank_ne_mark : blank ≠ mark

/-- Words between double quotes, with a backslash as the escape. -/
def doubleQuotes : Quoting Char := ⟨'"', '\\', ' ', by decide, by decide⟩

variable {α : Type} [DecidableEq α] (q : Quoting α)

/-! ## Writing -/

/-- A backslash before what would end the word or escape something. -/
def escape (word : List α) : List α :=
  word.flatMap fun c => if c = q.mark ∨ c = q.backslash then [q.backslash, c] else [c]

/-- A word between its marks. -/
def quote (word : List α) : List α := q.mark :: (escape q word ++ [q.mark])

/-- The words with a blank between each two. -/
def writeWords : List (List α) → List α
  | [] => []
  | [word] => quote q word
  | word :: next :: words => quote q word ++ q.blank :: writeWords (next :: words)

theorem mem_escape {c : α} {word : List α} (h : c ∈ escape q word) :
    c = q.backslash ∨ c ∈ word := by
  obtain ⟨d, hd, hc⟩ := List.mem_flatMap.mp h
  split at hc
  · obtain rfl | hc := List.mem_cons.mp hc
    · exact Or.inl rfl
    · exact Or.inr (List.mem_singleton.mp hc ▸ hd)
  · exact Or.inr (List.mem_singleton.mp hc ▸ hd)

theorem mem_quote {c : α} {word : List α} (h : c ∈ quote q word) :
    c = q.mark ∨ c = q.backslash ∨ c ∈ word := by
  obtain rfl | h := List.mem_cons.mp h
  · exact Or.inl rfl
  · obtain h | h := List.mem_append.mp h
    · exact Or.inr (mem_escape q h)
    · exact Or.inl (List.mem_singleton.mp h)

/-- Every character written is one of the three or comes from a word. -/
theorem mem_writeWords {c : α} {words : List (List α)} (h : c ∈ writeWords q words) :
    c = q.mark ∨ c = q.backslash ∨ c = q.blank ∨ ∃ word ∈ words, c ∈ word := by
  induction words with
  | nil => exact nomatch h
  | cons word words ih =>
      have hword : c ∈ quote q word → c = q.mark ∨ c = q.backslash ∨ c = q.blank ∨
          ∃ w ∈ word :: words, c ∈ w := by
        intro hc
        obtain hc | hc | hc := mem_quote q hc
        · exact Or.inl hc
        · exact Or.inr (Or.inl hc)
        · exact Or.inr (Or.inr (Or.inr ⟨word, List.mem_cons_self, hc⟩))
      cases words with
      | nil => exact hword h
      | cons next words =>
          obtain h | h := List.mem_append.mp h
          · exact hword h
          obtain hblank | h := List.mem_cons.mp h
          · exact Or.inr (Or.inr (Or.inl hblank))
          obtain hc | hc | hc | ⟨other, hother, hc⟩ := ih h
          · exact Or.inl hc
          · exact Or.inr (Or.inl hc)
          · exact Or.inr (Or.inr (Or.inl hc))
          · exact Or.inr (Or.inr (Or.inr ⟨other, List.mem_cons_of_mem _ hother, hc⟩))

/-- What is written ends with a mark. -/
theorem getLast?_writeWords {words : List (List α)} (h : words ≠ []) :
    (writeWords q words).getLast? = some q.mark := by
  induction words with
  | nil => exact absurd rfl h
  | cons word words ih =>
      cases words with
      | nil =>
          rw [writeWords, quote, ← List.cons_append]
          exact List.getLast?_concat
      | cons next words =>
          rw [writeWords, List.getLast?_append, List.getLast?_cons,
            ih (List.cons_ne_nil next words)]
          rfl

/-! ## Reading -/

mutual

/-- Where a word may start. -/
def readWords : List α → Option (List (List α))
  | [] => some []
  | c :: cs =>
      if c = q.blank then readWords cs
      else if c = q.mark then readInside [] cs
      else none

/-- In a word that starts with `acc`. -/
def readInside (acc : List α) : List α → Option (List (List α))
  | [] => none
  | c :: cs =>
      if c = q.mark then (readAfter cs).map (acc :: ·)
      else if c = q.backslash then readEscaped acc cs
      else readInside (acc ++ [c]) cs

/-- After a backslash in a word. -/
def readEscaped (acc : List α) : List α → Option (List (List α))
  | [] => none
  | c :: cs => if c = q.mark ∨ c = q.backslash then readInside (acc ++ [c]) cs else none

/-- After the mark that ends a word. -/
def readAfter : List α → Option (List (List α))
  | [] => some []
  | c :: cs => if c = q.blank then readWords cs else none

end

theorem escape_cons (c : α) (word : List α) :
    escape q (c :: word)
      = (if c = q.mark ∨ c = q.backslash then [q.backslash, c] else [c]) ++ escape q word := rfl

/-- An escaped word is read to its end. -/
theorem readInside_escape (acc word rest : List α) :
    readInside q acc (escape q word ++ q.mark :: rest)
      = (readAfter q rest).map ((acc ++ word) :: ·) := by
  induction word generalizing acc with
  | nil =>
      show readInside q acc (q.mark :: rest) = _
      rw [readInside, if_pos rfl, List.append_nil]
  | cons c word ih =>
      rw [escape_cons, List.append_assoc]
      by_cases hspecial : c = q.mark ∨ c = q.backslash
      · rw [if_pos hspecial, List.cons_append, List.cons_append, List.nil_append, readInside,
          if_neg q.mark_ne_backslash.symm, if_pos rfl, readEscaped, if_pos hspecial, ih,
          List.append_assoc, List.singleton_append]
      · obtain ⟨hmark, hbackslash⟩ := not_or.mp hspecial
        rw [if_neg hspecial, List.singleton_append, readInside, if_neg hmark, if_neg hbackslash,
          ih, List.append_assoc, List.singleton_append]

theorem readWords_quote (word rest : List α) :
    readWords q (quote q word ++ rest) = (readAfter q rest).map (word :: ·) := by
  rw [quote, List.cons_append, readWords, if_neg q.blank_ne_mark.symm, if_pos rfl,
    List.append_assoc, List.singleton_append, readInside_escape, List.nil_append]

/-- **QUOTED WORDS ARE READ BACK.** -/
theorem readWords_writeWords (words : List (List α)) :
    readWords q (writeWords q words) = some words := by
  induction words with
  | nil => rfl
  | cons word words ih =>
      cases words with
      | nil =>
          have h := readWords_quote q word []
          rw [List.append_nil] at h
          exact h
      | cons next words =>
          rw [writeWords, readWords_quote, readAfter, if_pos rfl, ih]
          rfl

end QuotedWords
