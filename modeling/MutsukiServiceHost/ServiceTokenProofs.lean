import MutsukiServiceHost.ServiceLayerProofs

/-! # The control token

    A request is let in if its token is the configured one.  The token comes from
    the command line, a variable the configuration names, the last file, the file
    `control.token`, or is generated.  What is read from `control.token` is
    trimmed and must not be blank; what is configured is taken as it is.

    `control_token_inked_iff` — a token with a visible character in it, and the
    same one on the next load, exactly when no blank token is configured. -/

namespace ServiceLoad

open ServiceControl ServiceSession

/-! ## Text without white space -/

theorem trimChars_eq_self {l : List Char} (h : ∀ c ∈ l, isWhitespace c = false) :
    trimChars l = l := by
  have hdrop : ∀ l : List Char, (∀ c ∈ l, isWhitespace c = false) →
      l.dropWhile isWhitespace = l := by
    intro l h
    cases l with
    | nil => rfl
    | cons c cs =>
        refine List.dropWhile_cons_of_neg ?_
        rw [h c List.mem_cons_self]
        exact nofun
  rw [trimChars, hdrop l h, hdrop l.reverse (fun c hc => h c (List.mem_reverse.mp hc)),
    List.reverse_reverse]

/-- What is left after trimming starts with something visible. -/
theorem inked_trim {s : String} (h : trim s ≠ "") : Inked (trim s) := by
  have hne : (s.toList.dropWhile isWhitespace).reverse.dropWhile isWhitespace ≠ [] := by
    intro hnil
    apply h
    rw [trim, trimChars, hnil]
    rfl
  refine ⟨_, ?_, List.head_dropWhile_not isWhitespace hne⟩
  rw [trim, String.toList_ofList, trimChars]
  exact List.mem_reverse.mpr (List.head_mem hne)

theorem isWhitespace_digitChar : ∀ n < 16, isWhitespace (Nat.digitChar n) = false := by
  decide

/-- Digits are visible, most significant first. -/
theorem isWhitespace_toDigits {b : Nat} (hone : 1 < b) (hle : b ≤ 16) (n : Nat) :
    ∀ c ∈ Nat.toDigits b n, isWhitespace c = false := by
  induction n using Nat.strongRecOn with
  | ind n ih =>
      intro c hc
      rw [Nat.toDigits_eq_if hone] at hc
      split at hc
      · rename_i hlt
        rw [List.mem_singleton.mp hc]
        exact isWhitespace_digitChar n (by omega)
      · rename_i hge
        rcases List.mem_append.mp hc with hhigh | hlow
        · exact ih (n / b) (Nat.div_lt_self (by omega) hone) c hhigh
        · rw [List.mem_singleton.mp hlow]
          have hmod := Nat.mod_lt n (show b > 0 by omega)
          exact isWhitespace_digitChar _ (by omega)

theorem isWhitespace_generateLocalToken (host : Host) :
    ∀ c ∈ (generateLocalToken host).toList, isWhitespace c = false := by
  have hliteral : ∀ s : String, (s.toList.all fun c => !isWhitespace c) = true →
      ∀ c ∈ s.toList, isWhitespace c = false := by
    intro s hall c hc
    simpa using List.all_eq_true.mp hall c hc
  intro c hc
  simp only [generateLocalToken, String.toList_append, String.toList_ofList, List.mem_append] at hc
  rcases hc with ((hlocal | hnanos) | hdash) | hpid
  · exact hliteral "local-" (by decide) c hlocal
  · exact isWhitespace_toDigits (by decide) (by decide) _ c hnanos
  · exact hliteral "-" (by decide) c hdash
  · rw [Nat.toString_eq_ofList_toDigits, String.toList_ofList] at hpid
    exact isWhitespace_toDigits (by decide) (by decide) _ c hpid

theorem trim_generateLocalToken (host : Host) :
    trim (generateLocalToken host) = generateLocalToken host := by
  rw [trim, trimChars_eq_self (isWhitespace_generateLocalToken host), String.ofList_toList]

theorem inked_generateLocalToken (host : Host) : Inked (generateLocalToken host) := by
  refine ⟨'l', ?_, by decide⟩
  simp [generateLocalToken, String.toList_append]

/-! ## Where the token comes from -/

/-- The token that is configured: command line, variable, last file. -/
def configuredToken (overrides : ConfigOverrides) (host : Host) : Option String :=
  overrides.controlToken <|> host.env (baseSections overrides host).security.controlTokenEnv
    <|> (baseSections overrides host).ipc.token

/-- The three ways `ensure_control_token` ends outside of tests. -/
theorem ensureControlToken_cases {host : Host} {c : Sections} {token : String}
    {disk : PathBuf → Node} (h : ensureControlToken host c = .ok (token, disk))
    (hallow : host.env "MUTSUKI_TEST_ALLOW_EMPTY_TOKEN" ≠ some "1") :
    c.ipc.token = some token ∨
      (c.ipc.token = none ∧ storedToken host (tokenPath c) = some token ∧ disk = host.disk) ∨
      (c.ipc.token = none ∧ storedToken host (tokenPath c) = none ∧
        token = generateLocalToken host ∧ disk (tokenPath c) = .file token) := by
  simp only [ensureControlToken] at h
  split at h
  · rename_i configured htoken
    cases h
    exact Or.inl htoken
  · rename_i htoken
    rw [if_neg hallow] at h
    split at h
    · rename_i stored hstored
      cases h
      exact Or.inr (Or.inl ⟨htoken, hstored, rfl⟩)
    · rename_i hstored
      split at h
      · cases h
      · cases h
        exact Or.inr (Or.inr ⟨htoken, hstored, rfl, if_pos rfl⟩)

/-- A token that was not configured is the one in the file from then on. -/
theorem storedToken_after {host host' : Host} {c : Sections} {token : String}
    {disk : PathBuf → Node} (h : ensureControlToken host c = .ok (token, disk))
    (hallow : host.env "MUTSUKI_TEST_ALLOW_EMPTY_TOKEN" ≠ some "1")
    (hnone : c.ipc.token = none) (hdisk : host'.disk (tokenPath c) = disk (tokenPath c)) :
    storedToken host' (tokenPath c) = some token := by
  rcases ensureControlToken_cases h hallow with hsome | ⟨-, hstored, rfl⟩ | ⟨-, -, rfl, hfile⟩
  · rw [hnone] at hsome
    exact nomatch hsome
  · rw [← hstored]
    simp only [storedToken, hdisk]
  · have hinked : generateLocalToken host ≠ "" := by
      intro hempty
      obtain ⟨c, hc, -⟩ := inked_generateLocalToken host
      rw [hempty] at hc
      exact nomatch hc
    simp only [storedToken, hdisk, hfile, Node.read, trim_generateLocalToken]
    exact if_neg hinked

theorem inked_storedToken {host : Host} {path : PathBuf} {token : String}
    (h : storedToken host path = some token) : Inked token := by
  simp only [storedToken] at h
  split at h
  · cases h
  · split at h
    · cases h
    · rename_i hne
      cases h
      exact inked_trim hne

/-- `load` settles the token from the configured one and `control.token`. -/
theorem load_token {overrides : ConfigOverrides} {host : Host} {r : Loaded}
    (h : load overrides host = .ok r) :
    ∃ c : Sections, c.ipc.token = configuredToken overrides host ∧
      tokenPath c = tokenPath r.sections ∧
      ensureControlToken host c = .ok (r.controlToken, r.disk) := by
  obtain ⟨hlayers, c, -, hipc, -, htoken, hservice, -⟩ := load_ok h
  refine ⟨c.resolveRelativeDirs, ?_, ?_, htoken⟩
  · show c.ipc.token = _
    rw [hipc, overriddenSections, show r.layers.sections = baseSections overrides host from
      sections_eq hlayers]
    rfl
  · simp only [tokenPath, hservice]

/-- The token keeps callers out, and a token that is not configured stays. -/
structure TokenSound (overrides : ConfigOverrides) (host : Host) (r : Loaded) : Prop where
  inked : Inked r.controlToken
  again : configuredToken overrides host = none → ∀ overrides' host' r',
    load overrides' host' = .ok r' → configuredToken overrides' host' = none →
    host'.env "MUTSUKI_TEST_ALLOW_EMPTY_TOKEN" ≠ some "1" →
    r'.sections.service.runDir = r.sections.service.runDir →
    host'.disk (tokenPath r.sections) = r.disk (tokenPath r.sections) →
    r'.controlToken = r.controlToken

/-- **A BLANK TOKEN IS TAKEN AS IT IS**: the token is sound exactly when none is
    configured, or the one that is has a visible character. -/
theorem control_token_inked_iff {overrides : ConfigOverrides} {host : Host} {r : Loaded}
    (h : load overrides host = .ok r)
    (hallow : host.env "MUTSUKI_TEST_ALLOW_EMPTY_TOKEN" ≠ some "1") :
    TokenSound overrides host r ↔
      ∀ token, configuredToken overrides host = some token → Inked token := by
  obtain ⟨c, hconfigured, hpath, htoken⟩ := load_token h
  constructor
  · intro hsound token hsome
    rcases ensureControlToken_cases htoken hallow with hgiven | ⟨hnone, -⟩ | ⟨hnone, -⟩
    · rw [hconfigured, hsome] at hgiven
      cases hgiven
      exact hsound.inked
    · rw [hconfigured, hsome] at hnone
      exact nomatch hnone
    · rw [hconfigured, hsome] at hnone
      exact nomatch hnone
  · intro hvisible
    refine ⟨?_, ?_⟩
    · rcases ensureControlToken_cases htoken hallow with hgiven | ⟨-, hstored, -⟩ | ⟨-, -, hgen, -⟩
      · exact hvisible _ (hconfigured.symm.trans hgiven)
      · exact inked_storedToken hstored
      · rw [hgen]
        exact inked_generateLocalToken host
    · intro hnone overrides' host' r' h' hnone' hallow' hrun hdisk
      obtain ⟨c', hconfigured', hpath', htoken'⟩ := load_token h'
      have hsame : tokenPath c' = tokenPath c := by
        rw [hpath, hpath', tokenPath, tokenPath, hrun]
      have hstored := storedToken_after htoken hallow (hconfigured.trans hnone)
        (hpath ▸ hdisk)
      rcases ensureControlToken_cases htoken' hallow' with hgiven | ⟨-, hfound, -⟩ | ⟨-, hgone, -⟩
      · rw [hconfigured', hnone'] at hgiven
        exact nomatch hgiven
      · rw [hsame, hstored] at hfound
        exact (Option.some.inj hfound).symm
      · rw [hsame, hstored] at hgone
        exact nomatch hgone

/-- A first start without any file: the token is generated. -/
theorem control_token_sample :
    ∃ r, load noOverrides (sampleHost [] []) = .ok r ∧ r.controlToken = "local-18a3f-4242" ∧
      TokenSound noOverrides (sampleHost [] []) r := by
  refine ⟨_, rfl, by decide +kernel, (control_token_inked_iff rfl (by decide)).mpr ?_⟩
  intro token htoken
  exact nomatch htoken

/-- `--token ""` makes the empty token the right one. -/
theorem empty_token_accepted :
    ∃ r, load { noOverrides with controlToken := some "" } (sampleHost [] []) = .ok r ∧
      (sampleHost [] []).env "MUTSUKI_TEST_ALLOW_EMPTY_TOKEN" ≠ some "1" ∧
      r.controlToken = "" ∧
      ¬ TokenSound { noOverrides with controlToken := some "" } (sampleHost [] []) r := by
  refine ⟨_, rfl, by decide, rfl, ?_⟩
  intro hsound
  obtain ⟨c, hc, -⟩ := hsound.inked
  exact nomatch hc

end ServiceLoad
