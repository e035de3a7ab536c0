import Mathlib.Data.List.Chain
import Mathlib.Data.List.DropRight
import MutsukiServiceHost.ServiceConfigProofs

/-! # Names of the installed service

    `install`, `start` and `uninstall` each compute the name of the service from
    the instance id.  The loop of `sanitized_service_suffix` carries a flag for
    the dash it pushed last; a suffix is canonical, and canonical suffixes are
    exactly what it leaves as it is.

    * `sanitized_service_suffix_canonical` — for every instance id the suffix is
      canonical and its own suffix, and an instance with that id has the same
      names. -/

namespace ServiceDaemon

open ServiceLoad (Sections isAsciiAlphanumeric)

/-! ## The suffix -/

/-- A character as the suffix spells it. -/
def mappedChar (ch : Char) : Char :=
  if isAsciiAlphanumeric ch || ch == '.' || ch == '_' || ch == '-' then ch.toLower else '-'

/-- The two variables of the loop. -/
structure SuffixState where
  suffix : List Char
  lastWasDash : Bool

/-- The loop's body for a mapped character. -/
def SuffixState.push (s : SuffixState) (mapped : Char) : SuffixState :=
  if mapped = '-' then
    if s.lastWasDash then s else ⟨s.suffix ++ [mapped], true⟩
  else ⟨s.suffix ++ [mapped], false⟩

/-- The loop over the characters of the id. -/
def SuffixState.run (s : SuffixState) (chars : List Char) : SuffixState :=
  chars.foldl (fun state ch => state.push (mappedChar ch)) s

/-- The suffix after the loop. -/
def suffixLoop (chars : List Char) : List Char := (SuffixState.run ⟨[], false⟩ chars).suffix

/-- `str::trim_matches` of a character. -/
def trimMatches (ch : Char) (l : List Char) : List Char :=
  (l.dropWhile (· == ch)).rdropWhile (· == ch)

/-- `sanitized_service_suffix`. -/
def sanitizedServiceSuffix (instanceId : String) : String :=
  let suffix := trimMatches '-' (suffixLoop instanceId.toList)
  if suffix = [] then "default" else String.ofList suffix

/-- `service_name`, and `windows_service_name` with it. -/
def serviceName (config : Sections) : String :=
  "mutsuki-service-" ++ sanitizedServiceSuffix config.service.instanceId

/-- `launchd_label`. -/
def launchdLabel (config : Sections) : String :=
  "io.github.sena-nana.mutsuki-service." ++ sanitizedServiceSuffix config.service.instanceId

example : sanitizedServiceSuffix "Prod/Main 01" = "prod-main-01" ∧
    sanitizedServiceSuffix "\\/:*?" = "default" := by
  decide +kernel

/-- `[a-z0-9._-]`. -/
def isSuffixChar (ch : Char) : Bool :=
  ('a' ≤ ch && ch ≤ 'z') || ('0' ≤ ch && ch ≤ '9') || ch == '.' || ch == '_' || ch == '-'

/-- No two neighbours are dashes. -/
def SingleDashes (l : List Char) : Prop := l.IsChain fun a b => ¬ (a = '-' ∧ b = '-')

/-- What a suffix looks like. -/
structure Canonical (suffix : List Char) : Prop where
  nonempty : suffix ≠ []
  chars : ∀ ch ∈ suffix, isSuffixChar ch = true
  starts : suffix.head? ≠ some '-'
  ends : suffix.getLast? ≠ some '-'
  single : SingleDashes suffix

/-- The same service under another instance id. -/
def withInstanceId (config : Sections) (instanceId : String) : Sections :=
  { config with service := { config.service with instanceId := instanceId } }

/-! ## The loop -/

theorem mappedChar_spec (ch : Char) :
    isSuffixChar (mappedChar ch) = true ∧ (isSuffixChar ch = true → mappedChar ch = ch) := by
  have hascii : ∀ n < 128, isSuffixChar (mappedChar (Char.ofNat n)) = true ∧
      (isSuffixChar (Char.ofNat n) = true → mappedChar (Char.ofNat n) = Char.ofNat n) := by
    decide +kernel
  by_cases hlt : ch.toNat < 128
  · have h := hascii ch.toNat hlt
    rwa [Char.ofNat_toNat] at h
  · -- beyond ASCII every character becomes a dash
    have hle : ∀ top : Char, top.toNat < 128 → ¬ ch ≤ top := fun top htop hch =>
      hlt (Nat.lt_of_le_of_lt (show ch.toNat ≤ top.toNat from hch) htop)
    have hne : ∀ other : Char, other.toNat < 128 → (ch == other) = false := fun other hother =>
      beq_eq_false_iff_ne.mpr fun heq => hlt (heq ▸ hother)
    have hchar : isSuffixChar ch = false := by
      simp only [isSuffixChar, hle 'z' (by decide), hle '9' (by decide), hne '.' (by decide),
        hne '_' (by decide), hne '-' (by decide), decide_false, Bool.and_false, Bool.or_false]
    have hmapped : mappedChar ch = '-' := by
      simp only [mappedChar, isAsciiAlphanumeric, hle 'z' (by decide), hle '9' (by decide),
        hle 'Z' (by decide), hne '.' (by decide), hne '_' (by decide), hne '-' (by decide),
        decide_false, Bool.and_false, Bool.or_false, Bool.false_eq_true, if_false]
    rw [hmapped, hchar]
    exact ⟨by decide, fun h => nomatch h⟩

/-- What holds of the two variables before each character. -/
structure LoopInv (s : SuffixState) : Prop where
  chars : ∀ ch ∈ s.suffix, isSuffixChar ch = true
  single : SingleDashes s.suffix
  flag : s.lastWasDash = true ↔ s.suffix.getLast? = some '-'

theorem singleDashes_concat {l : List Char} {ch : Char} :
    SingleDashes (l ++ [ch]) ↔ SingleDashes l ∧ ¬ (l.getLast? = some '-' ∧ ch = '-') := by
  rw [SingleDashes, List.isChain_append]
  constructor
  · rintro ⟨hl, -, hjoin⟩
    exact ⟨hl, fun h => hjoin '-' h.1 ch rfl ⟨rfl, h.2⟩⟩
  · rintro ⟨hl, hjoin⟩
    refine ⟨hl, List.isChain_singleton ch, fun a ha b hb => ?_⟩
    obtain rfl : ch = b := Option.some_inj.mp hb
    rintro ⟨rfl, hdash⟩
    exact hjoin ⟨ha, hdash⟩

/-- One character keeps the invariant. -/
theorem LoopInv.push {s : SuffixState} (h : LoopInv s) {mapped : Char}
    (hmapped : isSuffixChar mapped = true) : LoopInv (s.push mapped) := by
  have hchars : ∀ ch ∈ s.suffix ++ [mapped], isSuffixChar ch = true := by
    intro ch hch
    obtain hch | hch := List.mem_append.mp hch
    · exact h.chars ch hch
    · rwa [List.mem_singleton.mp hch]
  rw [SuffixState.push]
  by_cases hdash : mapped = '-'
  · rw [if_pos hdash]
    by_cases hlast : s.lastWasDash = true
    · rw [if_pos hlast]
      exact h
    · rw [if_neg hlast]
      refine ⟨hchars, singleDashes_concat.mpr ⟨h.single, fun hboth => ?_⟩, ?_⟩
      · exact hlast (h.flag.mpr hboth.1)
      · rw [List.getLast?_concat, hdash]
        exact iff_of_true rfl rfl
  · rw [if_neg hdash]
    refine ⟨hchars, singleDashes_concat.mpr ⟨h.single, fun hboth => hdash hboth.2⟩, ?_⟩
    rw [List.getLast?_concat]
    exact iff_of_false Bool.false_ne_true fun heq => hdash (Option.some_inj.mp heq)

theorem LoopInv.run {s : SuffixState} (h : LoopInv s) (chars : List Char) :
    LoopInv (s.run chars) := by
  induction chars generalizing s with
  | nil => exact h
  | cons ch chars ih => exact ih (h.push (mappedChar_spec ch).1)

/-- Characters that belong in a suffix are pushed as they are. -/
theorem push_run {s : SuffixState} (h : LoopInv s) {chars : List Char}
    (hchars : ∀ ch ∈ chars, isSuffixChar ch = true) (hsingle : SingleDashes (s.suffix ++ chars)) :
    (s.run chars).suffix = s.suffix ++ chars := by
  induction chars generalizing s with
  | nil => exact (List.append_nil _).symm
  | cons ch chars ih =>
      have hch : isSuffixChar ch = true := hchars ch List.mem_cons_self
      have hmapped : mappedChar ch = ch := (mappedChar_spec ch).2 hch
      rw [List.append_cons] at hsingle
      have hfirst : SingleDashes (s.suffix ++ [ch]) := List.IsChain.left_of_append hsingle
      have hpush : (s.push ch).suffix = s.suffix ++ [ch] := by
        rw [SuffixState.push]
        by_cases hdash : ch = '-'
        · have hlast : ¬ s.lastWasDash = true := fun hlast =>
            (singleDashes_concat.mp hfirst).2 ⟨h.flag.mp hlast, hdash⟩
          rw [if_pos hdash, if_neg hlast]
        · rw [if_neg hdash]
      have hrest : ∀ c ∈ chars, isSuffixChar c = true :=
        fun c hc => hchars c (List.mem_cons_of_mem _ hc)
      rw [← hpush] at hsingle
      rw [SuffixState.run, List.foldl_cons, hmapped, ← SuffixState.run,
        ih (h.push hch) hrest hsingle, hpush, List.append_assoc, List.singleton_append]

theorem loopInv_start : LoopInv ⟨[], false⟩ :=
  ⟨nofun, List.isChain_nil, by decide⟩

/-! ## Trimming -/

theorem trimMatches_infix (ch : Char) (l : List Char) : trimMatches ch l <:+: l := by
  have hback : trimMatches ch l <+: l.dropWhile (· == ch) := List.rdropWhile_prefix _ _
  exact hback.isInfix.trans (List.dropWhile_suffix _).isInfix

/-- What is first after both trims is first after the trim at the front. -/
theorem head?_trimmed {p : Char → Bool} {l : List Char} {c : Char}
    (h : ((l.dropWhile p).rdropWhile p).head? = some c) : p c = false := by
  have hstart : [c] <+: (l.dropWhile p).rdropWhile p :=
    List.singleton_prefix_iff_head?_eq_some.mpr h
  have hback : (l.dropWhile p).rdropWhile p <+: l.dropWhile p := List.rdropWhile_prefix _ _
  have hfront : (l.dropWhile p).head? = some c :=
    List.singleton_prefix_iff_head?_eq_some.mp (hstart.trans hback)
  have hnot := List.head?_dropWhile_not p l
  rw [hfront] at hnot
  exact hnot

theorem trimMatches_ends {ch : Char} {l : List Char} :
    (trimMatches ch l).head? ≠ some ch ∧ (trimMatches ch l).getLast? ≠ some ch := by
  constructor
  · intro h
    exact absurd (head?_trimmed h) (by simp)
  · intro h
    have hne : trimMatches ch l ≠ [] := fun hnil => by rw [hnil] at h; exact nomatch h
    have hlast := List.rdropWhile_last_not (· == ch) (l.dropWhile (· == ch)) hne
    rw [List.getLast?_eq_some_getLast hne] at h
    exact hlast (beq_iff_eq.mpr (Option.some_inj.mp h))

theorem trimMatches_eq_self {ch : Char} {l : List Char} (hhead : l.head? ≠ some ch)
    (hlast : l.getLast? ≠ some ch) : trimMatches ch l = l := by
  have hfront : l.dropWhile (· == ch) = l := by
    cases l with
    | nil => rfl
    | cons c l => exact List.dropWhile_cons_of_neg fun h => hhead (by rw [beq_iff_eq.mp h]; rfl)
  rw [trimMatches, hfront, List.rdropWhile_eq_self_iff]
  intro hne h
  exact hlast (by rw [List.getLast?_eq_some_getLast hne, beq_iff_eq.mp h])

/-! ## Canonical suffixes -/

theorem canonical_sanitizedServiceSuffix (instanceId : String) :
    Canonical (sanitizedServiceSuffix instanceId).toList := by
  have hloop : LoopInv _ := loopInv_start.run instanceId.toList
  have hpart := trimMatches_infix '-' (suffixLoop instanceId.toList)
  rw [sanitizedServiceSuffix]
  by_cases hnil : trimMatches '-' (suffixLoop instanceId.toList) = []
  · rw [if_pos hnil]
    exact ⟨by decide, List.all_eq_true.mp (by decide), by decide, by decide,
      by unfold SingleDashes; decide⟩
  · rw [if_neg hnil, String.toList_ofList]
    exact ⟨hnil, fun ch hch => hloop.chars ch (hpart.subset hch), trimMatches_ends.1,
      trimMatches_ends.2, List.IsChain.infix hloop.single hpart⟩

/-- Canonical suffixes are left as they are. -/
theorem sanitizedServiceSuffix_of_canonical {suffix : String} (h : Canonical suffix.toList) :
    sanitizedServiceSuffix suffix = suffix := by
  have hloop : suffixLoop suffix.toList = suffix.toList :=
    push_run loopInv_start h.chars h.single
  rw [sanitizedServiceSuffix, hloop, trimMatches_eq_self h.starts h.ends, if_neg h.nonempty,
    String.ofList_toList]

/-- **SUFFIXES ARE CANONICAL** and stay what they are, and so do the names that
    are made of them. -/
theorem sanitized_service_suffix_canonical (instanceId : String) :
    Canonical (sanitizedServiceSuffix instanceId).toList ∧
      sanitizedServiceSuffix (sanitizedServiceSuffix instanceId)
        = sanitizedServiceSuffix instanceId ∧
      ∀ config : Sections,
        serviceName (withInstanceId config (sanitizedServiceSuffix instanceId))
            = serviceName (withInstanceId config instanceId) ∧
          launchdLabel (withInstanceId config (sanitizedServiceSuffix instanceId))
            = launchdLabel (withInstanceId config instanceId) := by
  have hcanonical := canonical_sanitizedServiceSuffix instanceId
  have hidem := sanitizedServiceSuffix_of_canonical hcanonical
  exact ⟨hcanonical, hidem, fun config =>
    ⟨congrArg ("mutsuki-service-" ++ ·) hidem,
      congrArg ("io.github.sena-nana.mutsuki-service." ++ ·) hidem⟩⟩

end ServiceDaemon
