import Mathlib.Data.List.DropRight
import MutsukiServiceHost.LineSplitProofs
import MutsukiServiceHost.ServiceDecodeProofs

/-! # Tailing the log

    `read_log_tail` reads the log file from a cursor to its end and returns what
    it read as lines, with the position behind them as the next cursor.  What
    stands at the end of the file without a line feed is returned as a line and
    the cursor moves past it, so the rest of that line comes with the next poll,
    as a line of its own.  A poll that ends inside a character fails.

    A session appends to the file and polls in any order, and the file says when
    the polls together return the lines of the final file. -/

namespace ServiceTail

open ServiceControl ServiceFrame LineSplit

/-! ## `read_log_tail` -/

/-- `LogTailParams`. -/
structure LogTailParams where
  cursor : Option Nat
  lines : Option Nat
  filters : List (String × String)
  deriving DecidableEq, Repr

/-- `LogTailEntry`; a line stands as the bytes of its text. -/
structure LogTailEntry where
  offset : Nat
  line : List UInt8
  deriving DecidableEq, Repr

/-- `LogTailResponse`. -/
structure LogTailResponse where
  cursor : Nat
  entries : List LogTailEntry
  deriving DecidableEq, Repr

/-- The log file at a poll. -/
inductive LogFile where
  | missing
  | unreadable (detail : String)
  | readable (content : List UInt8)
  deriving DecidableEq, Repr

def LogFile.content : LogFile → List UInt8
  | .missing | .unreadable _ => []
  | .readable content => content

/-- `trim_end_matches(['\r', '\n'])`. -/
def trimLineEnd (line : List UInt8) : List UInt8 :=
  line.rdropWhile fun b => b = 0x0D || b = 0x0A

/-- What is read of a line is UTF-8. -/
def IsText (line : List UInt8) : Prop := utf8Error 0 0 line = none

instance (line : List UInt8) : Decidable (IsText line) :=
  inferInstanceAs (Decidable (utf8Error 0 0 line = none))

/-- The error of `read_line` on other bytes. -/
def notUtf8 : ControlError := .failed "stream did not contain valid UTF-8"

/-- The entry of a line. -/
def entryOf (offset : Nat) (line : List UInt8) : LogTailEntry := ⟨offset, trimLineEnd line⟩

/-- The loop over `read_line`, byte by byte: `line` is what the call has read,
    and `cursor` is where it began. -/
def readLoop (cursor : Nat) (line : List UInt8) :
    List UInt8 → Except ControlError (Nat × List LogTailEntry)
  | [] =>
      if line = [] then .ok (cursor, [])
      -- what has no line feed yet is a line all the same
      else if IsText line then .ok (cursor + line.length, [entryOf cursor line])
      else .error notUtf8
  | b :: bytes =>
      if b = 0x0A then
        if IsText (line ++ [b]) then
          match readLoop (cursor + (line ++ [b]).length) [] bytes with
          | .error error => .error error
          | .ok (next, entries) => .ok (next, entryOf cursor (line ++ [b]) :: entries)
        else .error notUtf8
      else readLoop cursor (line ++ [b]) bytes

/-- `read_log_tail`. -/
def readLogTail (file : LogFile) (params : LogTailParams) : Except ControlError LogTailResponse :=
  if params.filters ≠ [] then
    .error (.badRequest "log_tail filters are not supported by this runtime")
  else match file with
    | .missing => .ok ⟨0, []⟩
    | .unreadable detail => .error (.failed detail)
    | .readable content =>
        -- a cursor behind the end starts again from the beginning
        let start := (params.cursor.filter fun cursor => cursor ≤ content.length).getD 0
        let maxLines := params.lines.getD 100
        match readLoop start [] (content.drop start) with
        | .error error => .error error
        -- the cursor is that of the end, whatever is dropped here
        | .ok (cursor, entries) => .ok ⟨cursor, entries.drop (entries.length - maxLines)⟩

/-! ## The lines of a file -/

/-- A line without its line feed and one carriage return before it. -/
def stripTerminator (line : List UInt8) : List UInt8 :=
  if line.getLast? = some 0x0A then stripCarriageReturn line.dropLast else line

/-- The lines of a file, each with its position. -/
def fileLines (content : List UInt8) : List LogTailEntry :=
  placed (fun offset line => ⟨offset, stripTerminator line⟩) 0 (splitAfter 0x0A content)

/-! ## Sessions -/

/-- The file grows, or is polled for a number of lines. -/
inductive Event where
  | append (bytes : List UInt8)
  | poll (lines : Option Nat)
  deriving DecidableEq, Repr

/-- A file, the cursor of the last poll and all entries returned. -/
structure Session where
  file : LogFile
  cursor : Option Nat
  entries : List LogTailEntry
  deriving DecidableEq, Repr

/-- No file yet, and no poll. -/
def Session.initial : Session := ⟨.missing, none, []⟩

/-- One event; a poll passes the cursor of the one before. -/
def Session.step (s : Session) : Event → Except ControlError Session
  | .append bytes => .ok { s with file := .readable (s.file.content ++ bytes) }
  | .poll lines =>
      match readLogTail s.file ⟨s.cursor, lines, []⟩ with
      | .error error => .error error
      | .ok response =>
          .ok { s with cursor := some response.cursor, entries := s.entries ++ response.entries }

/-- All events, to the first poll that fails. -/
def Session.run (s : Session) : List Event → Except ControlError Session
  | [] => .ok s
  | event :: events =>
      match s.step event with
      | .error error => .error error
      | .ok s => s.run events

/-- What is appended. -/
def contents : List Event → List UInt8
  | [] => []
  | .append bytes :: events => bytes ++ contents events
  | .poll _ :: events => contents events

/-- Every poll asks for as many lines as are new, `new` being what was appended
    since the last poll. -/
def EnoughLines (new : List UInt8) : List Event → Prop
  | [] => True
  | .append bytes :: events => EnoughLines (new ++ bytes) events
  | .poll lines :: events =>
      (splitAfter 0x0A new).length ≤ lines.getD 100 ∧ EnoughLines [] events

/-- Every poll sees an empty file, a file that ends with a line feed, or the
    final file. -/
def PollsAtLineEnds (events : List Event) : Prop :=
  ∀ before lines after, events = before ++ .poll lines :: after →
    contents before = [] ∨ (contents before).getLast? = some 0x0A ∨ contents after = []

/-! ## What a poll returns -/

section Poll

variable {bytes line : List UInt8}

/-- The loop returns the pieces it reads as lines, if all of them are text. -/
theorem readLoop_eq (hline : (0x0A : UInt8) ∉ line) (cursor : Nat) :
    readLoop cursor line bytes =
      if ∀ piece ∈ splitAfter (0x0A : UInt8) (line ++ bytes), IsText piece then
        .ok (cursor + (line ++ bytes).length,
          placed entryOf cursor (splitAfter 0x0A (line ++ bytes)))
      else .error notUtf8 := by
  induction bytes generalizing line cursor with
  | nil =>
      rw [readLoop, List.append_nil]
      by_cases hnil : line = []
      · subst hnil
        rfl
      · rw [if_neg hnil, splitAfter_of_not_mem hline hnil]
        simp only [List.mem_singleton, forall_eq]
        rfl
  | cons b bytes ih =>
      rw [readLoop]
      by_cases hb : b = 0x0A
      · subst hb
        rw [if_pos rfl, ih List.not_mem_nil, splitAfter_line hline, List.nil_append]
        by_cases hfirst : IsText (line ++ [0x0A])
        · by_cases hrest : ∀ piece ∈ splitAfter 0x0A bytes, IsText piece
          · rw [if_pos hfirst, if_pos hrest, if_pos (List.forall_mem_cons.mpr ⟨hfirst, hrest⟩)]
            simp only [List.length_append, List.length_cons, List.length_nil, placed]
            rw [Nat.add_assoc, Nat.add_assoc, Nat.add_assoc, Nat.zero_add, Nat.add_comm 1]
          · rw [if_pos hfirst, if_neg hrest,
              if_neg fun hall => hrest (List.forall_mem_cons.mp hall).2]
        · rw [if_neg hfirst, if_neg fun hall => hfirst (List.forall_mem_cons.mp hall).1]
      · have hline' : (0x0A : UInt8) ∉ line ++ [b] := by
          rw [List.mem_append, List.mem_singleton]
          exact not_or.mpr ⟨hline, Ne.symm hb⟩
        rw [if_neg hb, ih hline', List.append_assoc, List.singleton_append]

/-- A poll from the end of `old` returns what is new, if all of it is text and
    the limit is large enough. -/
theorem readLogTail_eq {file : LogFile} {old new : List UInt8} {cursor lines : Option Nat}
    (hfile : file = .missing ∨ ∃ content, file = .readable content)
    (hcontent : file.content = old ++ new)
    (hcursor : cursor = some old.length ∨ (cursor = none ∧ old = []))
    (hlines : (splitAfter 0x0A new).length ≤ lines.getD 100) :
    readLogTail file ⟨cursor, lines, []⟩ =
      if ∀ piece ∈ splitAfter (0x0A : UInt8) new, IsText piece then
        .ok ⟨old.length + new.length, placed entryOf old.length (splitAfter 0x0A new)⟩
      else .error notUtf8 := by
  obtain rfl | ⟨content, rfl⟩ := hfile
  · obtain ⟨rfl, rfl⟩ := List.append_eq_nil_iff.mp hcontent.symm
    rfl
  · obtain rfl : content = old ++ new := hcontent
    have hstart :
      (cursor.filter fun cursor => cursor ≤ (old ++ new).length).getD 0 = old.length := by
      obtain rfl | ⟨rfl, rfl⟩ := hcursor
      · rw [Option.filter_some, if_pos (by simp), Option.getD_some]
      · rfl
    have hdrop : (placed entryOf old.length (splitAfter 0x0A new)).length - lines.getD 100 = 0 := by
      rw [length_placed]
      exact Nat.sub_eq_zero_of_le hlines
    simp only [readLogTail, ne_eq, not_true_eq_false, if_false, hstart, List.drop_left,
      readLoop_eq List.not_mem_nil, List.nil_append]
    by_cases htext : ∀ piece ∈ splitAfter 0x0A new, IsText piece
    · simp only [if_pos htext, hdrop, List.drop_zero]
    · simp only [if_neg htext]

end Poll

/-! ## What a session returns -/

/-- The lines as the polls see them, `new` being what was appended since the last
    one. -/
def linesRead (new : List UInt8) : List Event → List (List UInt8)
  | [] => []
  | .append bytes :: events => linesRead (new ++ bytes) events
  | .poll _ :: events => splitAfter 0x0A new ++ linesRead [] events

/-- The polls return the lines as they see them, if all of them are text. -/
theorem run_ok_iff {events : List Event} {s : Session} {old new : List UInt8}
    {entries : List LogTailEntry}
    (hfile : s.file = .missing ∨ ∃ content, s.file = .readable content)
    (hcontent : s.file.content = old ++ new)
    (hcursor : s.cursor = some old.length ∨ (s.cursor = none ∧ old = []))
    (hlines : EnoughLines new events) :
    (∃ s', s.run events = .ok s' ∧ s'.entries = entries) ↔
      (∀ line ∈ linesRead new events, IsText line) ∧
        s.entries ++ placed entryOf old.length (linesRead new events) = entries := by
  induction events generalizing s old new with
  | nil =>
      constructor
      · rintro ⟨s', hrun, rfl⟩
        rw [← Except.ok.inj hrun]
        exact ⟨List.forall_mem_nil _, List.append_nil _⟩
      · rintro ⟨-, rfl⟩
        exact ⟨s, rfl, (List.append_nil _).symm⟩
  | cons event events ih =>
      cases event with
      | append bytes =>
          have hcontent' : (LogFile.readable (s.file.content ++ bytes)).content =
              old ++ (new ++ bytes) := by
            rw [LogFile.content, hcontent, List.append_assoc]
          exact ih (s := { s with file := .readable (s.file.content ++ bytes) })
            (Or.inr ⟨_, rfl⟩) hcontent' hcursor hlines
      | poll lines =>
          rw [Session.run, Session.step, readLogTail_eq hfile hcontent hcursor hlines.1, linesRead]
          by_cases htext : ∀ piece ∈ splitAfter 0x0A new, IsText piece
          · rw [if_pos htext]
            have hnext : s.file.content = (old ++ new) ++ [] := by rw [List.append_nil, hcontent]
            have hcursor' : some (old.length + new.length) = some (old ++ new).length := by
              rw [List.length_append]
            have hrest := ih
              (s := ⟨s.file, some (old.length + new.length),
                s.entries ++ placed entryOf old.length (splitAfter 0x0A new)⟩)
              hfile hnext (Or.inl hcursor') hlines.2
            rw [List.append_assoc, List.length_append] at hrest
            rw [List.forall_mem_append, placed_append, flatten_splitAfter]
            exact hrest.trans (and_congr_left fun _ => (and_iff_right htext).symm)
          · rw [if_neg htext]
            constructor
            · rintro ⟨s', hrun, -⟩
              exact nomatch hrun
            · rintro ⟨hall, -⟩
              exact absurd (List.forall_mem_append.mp hall).1 htext

/-! ## When nothing is cut -/

section Cuts

variable {new : List UInt8} {events : List Event} {lines : Option Nat}

theorem contents_append (before after : List Event) :
    contents (before ++ after) = contents before ++ contents after := by
  induction before with
  | nil => rfl
  | cons event before ih =>
      cases event with
      | append bytes => rw [List.cons_append, contents, contents, ih, List.append_assoc]
      | poll lines => rw [List.cons_append, contents, contents, ih]

/-- With a poll at the end everything is read. -/
theorem flatten_linesRead :
    (linesRead new (events ++ [.poll lines])).flatten = new ++ contents events := by
  induction events generalizing new with
  | nil => rw [List.nil_append, linesRead, linesRead, List.append_nil, flatten_splitAfter, contents,
      List.append_nil]
  | cons event events ih =>
      cases event with
      | append bytes => rw [List.cons_append, linesRead, ih, contents, List.append_assoc]
      | poll lines =>
          rw [List.cons_append, linesRead, List.flatten_append, flatten_splitAfter, ih, contents,
            List.nil_append]

/-- Every poll sees nothing, a line feed at the end, or the rest of the file;
    `new` stands before the first event. -/
def CutsAtLineEnds (new : List UInt8) (events : List Event) : Prop :=
  ∀ before lines after, events = before ++ .poll lines :: after →
    new ++ contents before = [] ∨ (new ++ contents before).getLast? = some 0x0A ∨
      contents after = []

theorem cutsAtLineEnds_append {bytes : List UInt8} :
    CutsAtLineEnds new (.append bytes :: events) ↔ CutsAtLineEnds (new ++ bytes) events := by
  constructor
  · intro h before lines after heq
    have hcut := h (.append bytes :: before) lines after (by rw [heq, List.cons_append])
    rwa [contents, ← List.append_assoc] at hcut
  · intro h before lines after heq
    cases before with
    | nil => exact nomatch heq
    | cons event before =>
        obtain ⟨rfl, htail⟩ := List.cons.inj heq
        have hcut := h before lines after htail
        rwa [List.append_assoc] at hcut

/-- What stands before a cut does not matter behind it. -/
theorem cutsAtLineEnds_poll :
    CutsAtLineEnds new (.poll lines :: events) ↔
      (new = [] ∨ new.getLast? = some 0x0A ∨ contents events = []) ∧ CutsAtLineEnds [] events := by
  constructor
  · intro h
    have hfirst := h [] lines events rfl
    rw [contents, List.append_nil] at hfirst
    refine ⟨hfirst, fun before others after heq => ?_⟩
    have hcut := h (.poll lines :: before) others after (by rw [heq, List.cons_append])
    rw [contents] at hcut
    rw [List.nil_append]
    by_cases hbefore : contents before = []
    · exact Or.inl hbefore
    · rcases hcut with hcut | hcut | hcut
      · exact Or.inl (List.append_eq_nil_iff.mp hcut).2
      · rw [List.getLast?_append_of_ne_nil _ hbefore] at hcut
        exact Or.inr (Or.inl hcut)
      · exact Or.inr (Or.inr hcut)
  · rintro ⟨hfirst, h⟩ before others after heq
    cases before with
    | nil =>
        obtain ⟨-, rfl⟩ := List.cons.inj heq
        rwa [contents, List.append_nil]
    | cons event before =>
        obtain ⟨rfl, htail⟩ := List.cons.inj heq
        have htail : events = before ++ .poll others :: after := htail
        rw [contents]
        have hcut := h before others after htail
        rw [List.nil_append] at hcut
        by_cases hbefore : contents before = []
        · rw [hbefore, List.append_nil]
          rcases hfirst with hfirst | hfirst | hfirst
          · exact Or.inl hfirst
          · exact Or.inr (Or.inl hfirst)
          · refine Or.inr (Or.inr ?_)
            rw [htail, contents_append, contents] at hfirst
            exact (List.append_eq_nil_iff.mp hfirst).2
        · rcases hcut with hcut | hcut | hcut
          · exact absurd hcut hbefore
          · rw [List.getLast?_append_of_ne_nil _ hbefore]
            exact Or.inr (Or.inl hcut)
          · exact Or.inr (Or.inr hcut)

/-- The polls see the lines of the file exactly when none of them cuts one. -/
theorem linesRead_eq_iff :
    linesRead new (events ++ [.poll lines]) = splitAfter 0x0A (new ++ contents events) ↔
      CutsAtLineEnds new (events ++ [.poll lines]) := by
  induction events generalizing new with
  | nil =>
      rw [List.nil_append, linesRead, linesRead, List.append_nil, contents, List.append_nil,
        cutsAtLineEnds_poll]
      refine iff_of_true rfl ⟨Or.inr (Or.inr rfl), fun before others after heq => ?_⟩
      exact absurd heq.symm (List.append_ne_nil_of_right_ne_nil _ (List.cons_ne_nil _ _))
  | cons event events ih =>
      cases event with
      | append bytes =>
          rw [List.cons_append, linesRead, contents, ← List.append_assoc, ih, cutsAtLineEnds_append]
      | poll others =>
          have hflatten : (linesRead [] (events ++ [.poll lines])).flatten = contents events :=
            flatten_linesRead
          have hcontents : contents (events ++ [.poll lines]) = contents events := by
            rw [contents_append, contents, contents, List.append_nil]
          rw [List.cons_append, linesRead, contents, cutsAtLineEnds_poll, hcontents,
            ← splitAfter_append_iff, ← ih, List.nil_append]
          constructor
          · intro h
            -- the first poll ends a line, or it is the last to read anything
            have hfirst : new = [] ∨ new.getLast? = some 0x0A ∨ contents events = [] :=
              cut_of_split h.symm hflatten
            have hsplit := splitAfter_append hfirst
            exact ⟨hsplit, List.append_cancel_left (h.trans hsplit)⟩
          · rintro ⟨hsplit, hrest⟩
            rw [hrest, hsplit]

end Cuts

/-! ## What is left of a line -/

theorem trimLineEnd_eq_self {text : List UInt8} (h : (0x0A : UInt8) ∉ text) :
    trimLineEnd text = text ↔ text.getLast? ≠ some 0x0D := by
  rcases List.eq_nil_or_concat text with rfl | ⟨init, b, rfl⟩
  · exact iff_of_true rfl nofun
  · have hb : b ≠ 0x0A := fun hb => h (by simp [hb])
    rw [trimLineEnd, List.rdropWhile_eq_self_iff]
    simp [hb]

/-- The code trims what ends a line, and no more, when no carriage return stands
    before it. -/
theorem trimLineEnd_eq_strip {content line : List UInt8} (h : line ∈ splitAfter 0x0A content) :
    trimLineEnd line = stripTerminator line ↔ (stripTerminator line).getLast? ≠ some 0x0D := by
  obtain ⟨text, htext, rfl⟩ | ⟨hline, -⟩ := mem_splitAfter h
  · have htrim : trimLineEnd (text ++ [0x0A]) = trimLineEnd text :=
      List.rdropWhile_concat_pos _ _ _ rfl
    have hstrip : stripTerminator (text ++ [0x0A]) = stripCarriageReturn text := by
      rw [stripTerminator, List.getLast?_concat, if_pos rfl, List.dropLast_concat]
    rw [htrim, hstrip, stripCarriageReturn]
    by_cases hreturn : text.getLast? = some 0x0D
    · obtain ⟨init, rfl⟩ := List.getLast?_eq_some_iff.mp hreturn
      have hinit : (0x0A : UInt8) ∉ init := fun hmem => htext (List.mem_append_left _ hmem)
      have htrim : trimLineEnd (init ++ [0x0D]) = trimLineEnd init :=
        List.rdropWhile_concat_pos _ _ _ rfl
      rw [if_pos hreturn, htrim, List.dropLast_concat]
      exact trimLineEnd_eq_self hinit
    · rw [if_neg hreturn]
      exact trimLineEnd_eq_self htext
  · have hlast : line.getLast? ≠ some 0x0A := fun hlast => hline (List.mem_of_getLast? hlast)
    rw [stripTerminator, if_neg hlast]
    exact trimLineEnd_eq_self hline

/-- The entries of pieces are the lines of the file when the pieces are its lines
    and nothing more is trimmed. -/
theorem placed_eq_fileLines {pieces : List (List UInt8)} {content : List UInt8}
    (hflatten : pieces.flatten = content) :
    placed entryOf 0 pieces = fileLines content ↔
      pieces = splitAfter 0x0A content ∧
        ∀ line ∈ splitAfter 0x0A content, trimLineEnd line = stripTerminator line := by
  constructor
  · intro h
    have hpieces : pieces = splitAfter 0x0A content :=
      placed_inj LogTailEntry.offset (fun _ _ => rfl) (fun _ _ => rfl)
        (hflatten.trans (flatten_splitAfter _ _).symm) h
    refine ⟨hpieces, List.map_inj_left.mp ?_⟩
    have htrim : (placed entryOf 0 pieces).map (·.line) = pieces.map trimLineEnd :=
      map_placed fun _ _ => rfl
    have hstrip :
      (fileLines content).map (·.line) = (splitAfter 0x0A content).map stripTerminator :=
      map_placed fun _ _ => rfl
    rw [← hstrip, ← h, htrim, hpieces]
  · rintro ⟨rfl, hlines⟩
    exact placed_congr fun line hmem o => congrArg _ (hlines line hmem)

/-- **TAILING**: the polls of a session together return the lines of the final
    file exactly when no poll cuts a line, every line is text, and no carriage
    return stands before the end of a line. -/
theorem tail_complete_iff {events : List Event} {lines : Option Nat}
    (hlines : EnoughLines [] (events ++ [.poll lines])) :
    (∃ s, Session.initial.run (events ++ [.poll lines]) = .ok s ∧
        s.entries = fileLines (contents events)) ↔
      PollsAtLineEnds (events ++ [.poll lines]) ∧
        ∀ line ∈ splitAfter 0x0A (contents events),
          IsText line ∧ (stripTerminator line).getLast? ≠ some 0x0D := by
  have hflatten : (linesRead [] (events ++ [.poll lines])).flatten = contents events :=
    flatten_linesRead
  have hcuts : linesRead [] (events ++ [.poll lines]) = splitAfter 0x0A (contents events) ↔
      PollsAtLineEnds (events ++ [.poll lines]) := linesRead_eq_iff
  have hrun : (∃ s, Session.initial.run (events ++ [.poll lines]) = .ok s ∧
        s.entries = fileLines (contents events)) ↔
      (∀ line ∈ linesRead [] (events ++ [.poll lines]), IsText line) ∧
        placed entryOf 0 (linesRead [] (events ++ [.poll lines])) = fileLines (contents events) :=
    run_ok_iff (Or.inl rfl) rfl (Or.inr ⟨rfl, rfl⟩) hlines
  rw [hrun, placed_eq_fileLines hflatten, ← hcuts]
  constructor
  · rintro ⟨htext, hread, htrim⟩
    refine ⟨hread, fun line hmem => ⟨htext line (hread ▸ hmem), ?_⟩⟩
    exact (trimLineEnd_eq_strip hmem).mp (htrim line hmem)
  · rintro ⟨hread, hall⟩
    refine ⟨fun line hmem => (hall line (hread ▸ hmem)).1, hread, fun line hmem => ?_⟩
    exact (trimLineEnd_eq_strip hmem).mpr (hall line hmem).2

/-- "one" is written and polled, then "two". -/
def wholeLines : List Event :=
  [.append [0x6F, 0x6E, 0x65, 0x0A], .poll (some 10), .append [0x74, 0x77, 0x6F, 0x0D, 0x0A]]

theorem wholeLines_tailed :
    PollsAtLineEnds (wholeLines ++ [.poll none]) ∧
      ∀ line ∈ splitAfter 0x0A (contents wholeLines),
        IsText line ∧ (stripTerminator line).getLast? ≠ some 0x0D := by
  have henough : EnoughLines [] (wholeLines ++ [.poll none]) := ⟨by decide, by decide, trivial⟩
  exact (tail_complete_iff henough).mp ⟨_, rfl, by decide⟩

/-- "one" is polled when only "on" is written. -/
def cutLine : List Event := [.append [0x6F, 0x6E], .poll (some 10), .append [0x65, 0x0A]]

/-- **A LINE IN TWO**: the first poll returns "on" and the second one "e". -/
theorem poll_cuts_line :
    EnoughLines [] (cutLine ++ [.poll none]) ∧
      (∃ s, Session.initial.run (cutLine ++ [.poll none]) = .ok s ∧
        s.entries = [⟨0, [0x6F, 0x6E]⟩, ⟨2, [0x65]⟩]) ∧
      fileLines (contents cutLine) = [⟨0, [0x6F, 0x6E, 0x65]⟩] ∧
      ¬ ∃ s, Session.initial.run (cutLine ++ [.poll none]) = .ok s ∧
        s.entries = fileLines (contents cutLine) := by
  have hrun : Session.initial.run (cutLine ++ [.poll none]) =
      .ok ⟨.readable [0x6F, 0x6E, 0x65, 0x0A], some 4, [⟨0, [0x6F, 0x6E]⟩, ⟨2, [0x65]⟩]⟩ := by decide
  refine ⟨⟨by decide, by decide, trivial⟩, ⟨_, hrun, rfl⟩, by decide, ?_⟩
  rintro ⟨s, hs, hentries⟩
  rw [← Except.ok.inj (hrun.symm.trans hs)] at hentries
  exact absurd hentries (by decide)

end ServiceTail
