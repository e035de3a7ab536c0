import MutsukiServiceHost.QuotedWordsProofs
import MutsukiServiceHost.SerdeContentProofs
import MutsukiServiceHost.ServiceSecretProofs

/-! # Rotations as updates of the secrets

    The keys of a secret file may be spelled in many ways; a lookup knows them by
    their normal forms.  A rotation removes every spelling of its key from the
    file and inserts the normal form.

    * `rotation_law` — a rotation that succeeds on a store loaded from its file
      changes the secret under one normal form and no other, leaves a store that
      a restart loads again, and commutes with rotations of other keys. -/

namespace ServiceSecret

open SerdeContent
open ServiceLoad

/-! ## The files of a store -/

/-- A file that is printed is read back, and a file is read as a `BTreeMap`. -/
structure SecretToml.Faithful (toml : SecretToml) : Prop where
  ascending : ∀ text entries, toml.parse text = .ok entries → Ascending entries
  printed : ∀ entries, Ascending entries →
    ∃ text, toml.print entries = .ok text ∧ toml.parse text = .ok entries

/-- The entries in memory are the validated `entries` of the file. -/
structure LoadedFrom (toml : SecretToml) (store : SecretStore) (disk : SecretDisk) (path : PathBuf)
    (entries : List (String × String)) : Prop where
  pathOk : store.path = some path
  file : ∃ content, disk.file = .file content ∧ toml.parse content = .ok entries
  valid : validateSecretEntries path [] entries = .ok store.entries

/-- The entries in memory are the validated entries of the file. -/
def Loaded (toml : SecretToml) (store : SecretStore) (disk : SecretDisk) : Prop :=
  ∃ path entries, LoadedFrom toml store disk path entries

/-- Where `load_secret_file` looks for the file. -/
def secretPath (localFile configured : PathBuf) : PathBuf :=
  if configured.root then configured
  else (localFile.parent.getD ⟨false, ["."]⟩).join configured

/-- One more rotation. -/
def Rotated.next (r : Rotated) (toml : SecretToml) (io : RotateIo) (key value : String) : Rotated :=
  rotate toml io r.store r.disk key value

/-- What a successful rotation does. -/
structure RotationLaw (toml : SecretToml) (io : RotateIo) (store : SecretStore) (disk : SecretDisk)
    (key value : String) : Prop where
  resolve : ∀ k, (rotate toml io store disk key value).store.resolve k =
    if normalizeSecretKey k = normalizeSecretKey key then some value else store.resolve k
  loaded : Loaded toml (rotate toml io store disk key value).store
    (rotate toml io store disk key value).disk
  /-- a restart reads the secrets that are in memory -/
  restart : ∀ (host : Host) (localFile configured : PathBuf) (c : Sections),
    c.security.secretFile = some configured → store.path = some (secretPath localFile configured) →
    host.parseSecrets = toml.parse →
    host.disk (secretPath localFile configured) = (rotate toml io store disk key value).disk.file →
    ∃ c', loadSecretFile host localFile c
      = .ok (c', (rotate toml io store disk key value).store.entries)
  /-- what can be rotated after can be rotated before, and the other way -/
  enables : ∀ (io' : RotateIo) (key' value' : String),
    ((rotate toml io' store disk key' value').result = .ok () ↔
      ((rotate toml io store disk key value).next toml io' key' value').result = .ok ())
  commutes : ∀ (io' : RotateIo) (key' value' : String),
    normalizeSecretKey key' ≠ normalizeSecretKey key →
    (rotate toml io' store disk key' value').result = .ok () →
    (rotate toml io' store disk key' value').next toml io key value
      = (rotate toml io store disk key value).next toml io' key' value'

/-! ## Entries before and after -/

theorem insertEntry_eq_insertKey (key value : String) (entries : List (String × String)) :
    insertEntry key value entries = insertKey key value entries := by
  induction entries with
  | nil => rfl
  | cons e entries ih => rw [insertEntry, insertKey, ih]

theorem rotatedEntries_ascending {key value : String} {entries : List (String × String)}
    (h : Ascending entries) : Ascending (rotatedEntries key value entries) := by
  rw [rotatedEntries, insertEntry_eq_insertKey]
  exact insertKey_ascending (h.sublist List.filter_sublist)

/-- The entries after a rotation: the new one and the old ones under other
    keys. -/
theorem mem_rotatedEntries {key value : String} {entries : List (String × String)}
    {e : String × String} :
    e ∈ rotatedEntries (normalizeSecretKey key) value entries ↔
      e = (normalizeSecretKey key, value) ∨
        e ∈ entries ∧ normalizeSecretKey e.1 ≠ normalizeSecretKey key := by
  have hother : ∀ d, d ∈ otherEntries (normalizeSecretKey key) entries ↔
      d ∈ entries ∧ normalizeSecretKey d.1 ≠ normalizeSecretKey key := by
    intro d
    rw [otherEntries, List.mem_filter, decide_eq_true_eq]
  have hfresh : ∀ d ∈ otherEntries (normalizeSecretKey key) entries,
      d.1 ≠ normalizeSecretKey key := by
    intro d hd heq
    exact ((hother d).mp hd).2 (by rw [heq, normalizeSecretKey_idem])
  rw [rotatedEntries, (insertEntry_perm hfresh).mem_iff, List.mem_cons, hother]

/-- Rotations of different keys can be made in either order. -/
theorem rotatedEntries_comm {key value key' value' : String} {entries : List (String × String)}
    (h : Ascending entries) (hne : normalizeSecretKey key' ≠ normalizeSecretKey key) :
    rotatedEntries (normalizeSecretKey key') value'
        (rotatedEntries (normalizeSecretKey key) value entries)
      = rotatedEntries (normalizeSecretKey key) value
        (rotatedEntries (normalizeSecretKey key') value' entries) := by
  refine ascending_ext (rotatedEntries_ascending (rotatedEntries_ascending h))
    (rotatedEntries_ascending (rotatedEntries_ascending h)) ?_
  intro e
  simp only [mem_rotatedEntries]
  constructor
  · rintro (rfl | ⟨rfl | ⟨he, hkey⟩, hkey'⟩)
    · exact .inr ⟨.inl rfl, by rwa [normalizeSecretKey_idem]⟩
    · exact .inl rfl
    · exact .inr ⟨.inr ⟨he, hkey'⟩, hkey⟩
  · rintro (rfl | ⟨rfl | ⟨he, hkey'⟩, hkey⟩)
    · exact .inr ⟨.inl rfl, by rw [normalizeSecretKey_idem]; exact hne.symm⟩
    · exact .inl rfl
    · exact .inr ⟨.inr ⟨he, hkey⟩, hkey'⟩

theorem EntriesValid.rotated {key value : String} {entries : List (String × String)}
    (h : EntriesValid entries) (hkey : normalizeSecretKey key ≠ "") (hvalue : trim value ≠ "") :
    EntriesValid (rotatedEntries (normalizeSecretKey key) value entries) := by
  refine (entriesValid_rotated hkey hvalue).mpr ⟨?_, ?_, ?_⟩
  · exact fun e he => h.key e (List.mem_of_mem_filter he)
  · exact fun e he => h.value e (List.mem_of_mem_filter he)
  · exact h.nodup.sublist (List.filter_sublist.map _)

/-! ## Validated entries -/

/-- Validation normalizes the keys. -/
theorem validateSecretEntries_eq {path : PathBuf} {secrets entries result : List (String × String)}
    (h : validateSecretEntries path secrets entries = .ok result) :
    result = secrets ++ entries.map fun e => (normalizeSecretKey e.1, e.2) := by
  induction entries generalizing secrets with
  | nil => exact (Except.ok.inj h).symm.trans (List.append_nil _).symm
  | cons e entries ih =>
      obtain ⟨rawKey, value⟩ := e
      rw [validateSecretEntries] at h
      split at h
      · cases h
      · split at h
        · cases h
        · split at h
          · cases h
          · rw [ih h, List.append_assoc, List.map_cons, List.singleton_append]

/-- A secret is the value of an entry under a spelling of its key. -/
theorem resolve_eq_some_iff {path : PathBuf} {entries : List (String × String)}
    {store : SecretStore} (h : validateSecretEntries path [] entries = .ok store.entries)
    {k v : String} :
    store.resolve k = some v ↔
      ∃ e ∈ entries, normalizeSecretKey e.1 = normalizeSecretKey k ∧ e.2 = v := by
  have hvalid : EntriesValid entries := validates_iff.mp ⟨_, h⟩
  have hentries := validateSecretEntries_eq h
  rw [List.nil_append] at hentries
  have hnodup : (store.entries.map Prod.fst).Nodup := by
    rw [hentries, List.map_map]
    exact hvalid.nodup
  rw [SecretStore.resolve, ListUpdate.lookup_eq_some_iff hnodup, hentries, List.mem_map]
  constructor
  · rintro ⟨e, he, heq⟩
    exact ⟨e, he, congrArg Prod.fst heq, congrArg Prod.snd heq⟩
  · rintro ⟨e, he, hkey, rfl⟩
    exact ⟨e, he, by rw [hkey]⟩

/-! ## A rotation that succeeds -/

/-- What a rotation of a loaded store needs. -/
structure Possible (io : RotateIo) (key value : String) : Prop where
  keyOk : normalizeSecretKey key ≠ ""
  valueOk : trim value ≠ ""
  readOk : io.read = .ok ()
  writeOk : io.write = .ok ()
  permissionsOk : io.setPermissions = .ok ()
  renameOk : io.rename = .ok ()

/-- A rotation that succeeds was possible. -/
theorem possible_of_ok {toml : SecretToml} {io : RotateIo} {store : SecretStore} {disk : SecretDisk}
    {key value : String} (hok : (rotate toml io store disk key value).result = .ok ()) :
    Possible io key value := by
  obtain ⟨⟨e, he⟩, -⟩ | ⟨path, content, entries, text, hrep, -⟩ :=
    rotate_cases toml io store disk key value
  · rw [hok] at he
    exact nomatch he
  · exact ⟨hrep.keyOk, hrep.valueOk, hrep.readOk, hrep.writeOk, hrep.permissionsOk, hrep.renameOk⟩

section Loads

variable {toml : SecretToml} {store : SecretStore} {disk : SecretDisk} {path : PathBuf}
  {entries : List (String × String)}

/-- **ONE ROTATION** of a loaded store: what it leaves is printed and validated
    from the rotated entries, and loaded again. -/
theorem LoadedFrom.rotate_eq (htoml : toml.Faithful) (h : LoadedFrom toml store disk path entries)
    {io : RotateIo} {key value : String} (hpossible : Possible io key value) :
    ∃ text validated,
      toml.print (rotatedEntries (normalizeSecretKey key) value entries) = .ok text ∧
      validateSecretEntries path [] (rotatedEntries (normalizeSecretKey key) value entries)
        = .ok validated ∧
      rotate toml io store disk key value
        = ⟨.ok (), ⟨validated, some path⟩, ⟨.file text, .absent⟩⟩ ∧
      LoadedFrom toml ⟨validated, some path⟩ ⟨.file text, .absent⟩ path
        (rotatedEntries (normalizeSecretKey key) value entries) := by
  obtain ⟨content, hfile, hparse⟩ := h.file
  have hascending : Ascending (rotatedEntries (normalizeSecretKey key) value entries) :=
    rotatedEntries_ascending (htoml.ascending _ _ hparse)
  obtain ⟨text, hprint, hreparse⟩ := htoml.printed _ hascending
  have hentries : EntriesValid entries := validates_iff.mp ⟨_, h.valid⟩
  obtain ⟨validated, hvalid⟩ : ∃ validated, validateSecretEntries path []
      (rotatedEntries (normalizeSecretKey key) value entries) = .ok validated :=
    validates_iff.mpr (hentries.rotated hpossible.keyOk hpossible.valueOk)
  refine ⟨text, validated, hprint, hvalid, ?_, rfl, ⟨text, rfl, hreparse⟩, hvalid⟩
  have hread : (io.read.bind fun () => disk.file.read) = .ok content := by
    rw [hpossible.readOk, hfile]
    rfl
  have hwrite : atomicWrite io path text disk = (.ok (), ⟨.file text, .absent⟩) := by
    rw [atomicWrite, hpossible.writeOk, hpossible.permissionsOk, hpossible.renameOk]
  simp only [rotate, h.pathOk, hread, hparse, hprint, hwrite, hvalid]
  rw [if_neg (not_or.mpr ⟨hpossible.keyOk, hpossible.valueOk⟩)]

/-- On a loaded store a rotation succeeds whenever it is possible. -/
theorem LoadedFrom.rotate_ok_iff (htoml : toml.Faithful)
    (h : LoadedFrom toml store disk path entries) {io : RotateIo} {key value : String} :
    (rotate toml io store disk key value).result = .ok () ↔ Possible io key value := by
  constructor
  · exact possible_of_ok
  · intro hpossible
    obtain ⟨text, validated, -, -, hrotate, -⟩ := h.rotate_eq htoml hpossible
    rw [hrotate]

/-- The secrets before and after. -/
theorem LoadedFrom.resolve_rotated {store' : SecretStore} {disk' : SecretDisk} {key value : String}
    (h : LoadedFrom toml store disk path entries)
    (h' : LoadedFrom toml store' disk' path
      (rotatedEntries (normalizeSecretKey key) value entries)) (k : String) :
    store'.resolve k =
      if normalizeSecretKey k = normalizeSecretKey key then some value else store.resolve k := by
  refine Option.ext fun v => ?_
  rw [resolve_eq_some_iff h'.valid]
  simp only [mem_rotatedEntries]
  by_cases hk : normalizeSecretKey k = normalizeSecretKey key
  · rw [if_pos hk]
    constructor
    · rintro ⟨e, rfl | ⟨-, hother⟩, hkey, rfl⟩
      · rfl
      · exact absurd (hkey.trans hk) hother
    · rintro ⟨⟩
      exact ⟨_, .inl rfl, by rw [normalizeSecretKey_idem, hk], rfl⟩
  · rw [if_neg hk, resolve_eq_some_iff h.valid]
    constructor
    · rintro ⟨e, rfl | ⟨he, -⟩, hkey, rfl⟩
      · rw [normalizeSecretKey_idem] at hkey
        exact absurd hkey.symm hk
      · exact ⟨e, he, hkey, rfl⟩
    · rintro ⟨e, he, hkey, rfl⟩
      exact ⟨e, .inr ⟨he, fun heq => hk (hkey.symm.trans heq)⟩, hkey, rfl⟩

/-- A restart loads what is in memory. -/
theorem LoadedFrom.restart {localFile configured : PathBuf} {host : Host} {c : Sections}
    (h : LoadedFrom toml store disk (secretPath localFile configured) entries)
    (hconfigured : c.security.secretFile = some configured)
    (hparser : host.parseSecrets = toml.parse)
    (hdisk : host.disk (secretPath localFile configured) = disk.file) :
    ∃ c', loadSecretFile host localFile c = .ok (c', store.entries) := by
  obtain ⟨content, hfile, hparse⟩ := h.file
  have hread : (host.disk (secretPath localFile configured)).read = .ok content := by
    rw [hdisk, hfile]
    rfl
  have hvalid := h.valid
  rw [secretPath] at hread hvalid
  rw [loadSecretFile, hconfigured]
  dsimp only
  rw [hread, hparser]
  dsimp only
  rw [hparse]
  dsimp only
  rw [hvalid]
  exact ⟨_, rfl⟩

end Loads

/-- **A ROTATION UPDATES ONE SECRET**: the lookups, the file and the entries in
    memory agree on it, and rotations of different keys commute. -/
theorem rotation_law {toml : SecretToml} (htoml : toml.Faithful) {io : RotateIo}
    {store : SecretStore} {disk : SecretDisk} {key value : String}
    (hloaded : Loaded toml store disk)
    (hok : (rotate toml io store disk key value).result = .ok ()) :
    RotationLaw toml io store disk key value := by
  obtain ⟨path, entries, h⟩ := hloaded
  have hpossible := (h.rotate_ok_iff htoml).mp hok
  obtain ⟨text, validated, -, -, hrotate, hafter⟩ := h.rotate_eq htoml hpossible
  constructor
  case resolve =>
    intro k
    rw [hrotate]
    exact h.resolve_rotated hafter k
  case loaded =>
    rw [hrotate]
    exact ⟨path, _, hafter⟩
  case restart =>
    intro host localFile configured c hconfigured hpath hparser hdisk
    obtain rfl : path = secretPath localFile configured :=
      Option.some.inj (h.pathOk.symm.trans hpath)
    rw [hrotate] at hdisk ⊢
    exact hafter.restart hconfigured hparser hdisk
  case enables =>
    intro io' key' value'
    rw [Rotated.next, hrotate, h.rotate_ok_iff htoml]
    exact (hafter.rotate_ok_iff htoml).symm
  case commutes =>
    intro io' key' value' hne hok'
    have hpossible' := (h.rotate_ok_iff htoml).mp hok'
    obtain ⟨text', validated', -, -, hrotate', hafter'⟩ := h.rotate_eq htoml hpossible'
    obtain ⟨text₁, validated₁, hprint₁, hvalid₁, hrotate₁, -⟩ := hafter.rotate_eq htoml hpossible'
    obtain ⟨text₂, validated₂, hprint₂, hvalid₂, hrotate₂, -⟩ := hafter'.rotate_eq htoml hpossible
    -- both orders end with the same entries, hence with the same text
    obtain ⟨content, -, hparse⟩ := h.file
    rw [rotatedEntries_comm (htoml.ascending _ _ hparse) hne] at hprint₁ hvalid₁
    obtain rfl : text₁ = text₂ := Except.ok.inj (hprint₁.symm.trans hprint₂)
    obtain rfl : validated₁ = validated₂ := Except.ok.inj (hvalid₁.symm.trans hvalid₂)
    rw [Rotated.next, Rotated.next, hrotate, hrotate']
    exact hrotate₂.trans hrotate₁.symm

/-! ## A rotation of an aliased key -/

/-- The words of a text, two by two. -/
def pairWords : List (List Char) → Option (List (String × String))
  | [] => some []
  | key :: value :: words =>
      (pairWords words).map ((String.ofList key, String.ofList value) :: ·)
  | [_] => none

/-- Entries as quoted words. -/
def quotedText (entries : List (String × String)) : String :=
  String.ofList (QuotedWords.writeWords QuotedWords.doubleQuotes
    (entries.flatMap fun e => [e.1.toList, e.2.toList]))

/-- The entries of the file before and after the rotation. -/
def aliasedEntries : List (List (String × String)) :=
  [[("other", "kept"), ("token", "old")], [("TOKEN", "new"), ("other", "kept")]]

/-- `toml` on the two files, and quoted words for all other entries. -/
def aliasedToml : SecretToml where
  parse text :=
    match aliasedEntries.find? fun entries => text = secretText entries with
    | some entries => .ok entries
    | none =>
        match (QuotedWords.readWords QuotedWords.doubleQuotes text.toList).bind pairWords with
        | none => .error "expected a table"
        | some entries =>
            if entries.Pairwise fun a b => a.1 < b.1 then .ok entries
            else .error "duplicate key"
  print entries :=
    if entries ∈ aliasedEntries then .ok (secretText entries) else .ok (quotedText entries)

theorem pairWords_flatMap (entries : List (String × String)) :
    pairWords (entries.flatMap fun e => [e.1.toList, e.2.toList]) = some entries := by
  induction entries with
  | nil => rfl
  | cons e entries ih =>
      rw [List.flatMap_cons]
      show (pairWords (entries.flatMap fun e => [e.1.toList, e.2.toList])).map _ = _
      rw [ih, String.ofList_toList, String.ofList_toList]
      rfl

/-- Quoted words do not look like a secret file. -/
theorem quotedText_ne_secretText (entries entries' : List (String × String)) :
    quotedText entries ≠ secretText entries' := by
  intro h
  have htail : (secretText entries').toList
      = '[' :: ("secrets]\n".toList
        ++ (String.join (entries'.map fun e => e.1 ++ " = \"" ++ e.2 ++ "\"\n")).toList) := by
    rw [secretText, String.toList_append]
    rfl
  have hhead := congrArg (fun s => s.toList.head?) h
  simp only [htail, quotedText, String.toList_ofList, List.head?_cons] at hhead
  cases entries with
  | nil => exact nomatch hhead
  | cons e entries =>
      have hmark : some '"' = some '[' := hhead
      exact absurd hmark (by decide)

theorem aliasedToml_faithful : aliasedToml.Faithful where
  ascending text entries h := by
    rw [aliasedToml] at h
    dsimp only at h
    split at h
    · rename_i found hfound
      obtain rfl := Except.ok.inj h
      have hall : ∀ entries ∈ aliasedEntries, entries.Pairwise fun a b => a.1 < b.1 := by decide
      exact hall _ (List.mem_of_find?_eq_some hfound)
    · split at h
      · exact nomatch h
      · split at h
        · rename_i hascending
          obtain rfl := Except.ok.inj h
          exact hascending
        · exact nomatch h
  printed entries h := by
    by_cases hmem : entries ∈ aliasedEntries
    · refine ⟨secretText entries, if_pos hmem, ?_⟩
      have hall : ∀ entries ∈ aliasedEntries,
          aliasedToml.parse (secretText entries) = .ok entries := by decide
      exact hall _ hmem
    · refine ⟨quotedText entries, if_neg hmem, ?_⟩
      have hnone : (aliasedEntries.find? fun entries' => quotedText entries = secretText entries')
          = none := by
        rw [List.find?_eq_none]
        intro entries' _ heq
        exact quotedText_ne_secretText entries entries' (of_decide_eq_true heq)
      have hwords :
          (QuotedWords.readWords QuotedWords.doubleQuotes (quotedText entries).toList).bind
            pairWords
          = some entries := by
        rw [quotedText, String.toList_ofList, QuotedWords.readWords_writeWords]
        exact pairWords_flatMap entries
      rw [aliasedToml]
      dsimp only
      rw [hnone, hwords]
      exact if_pos h

/-- The file has the key to rotate under another spelling. -/
def aliasedDisk : SecretDisk := ⟨.file (secretText [("other", "kept"), ("token", "old")]), .absent⟩

/-- The store that was loaded from it. -/
def aliasedStore : SecretStore :=
  ⟨[("OTHER", "kept"), ("TOKEN", "old")], some ⟨true, ["etc", "local.secret.toml"]⟩⟩

/-- The key is rotated under a third spelling. -/
theorem rotation_law_aliased :
    RotationLaw aliasedToml smoothIo aliasedStore aliasedDisk " Token" "new" :=
  rotation_law aliasedToml_faithful
    ⟨_, [("other", "kept"), ("token", "old")], rfl, ⟨_, rfl, by decide⟩, by rfl⟩ (by rfl)

end ServiceSecret
