import MutsukiServiceHost.ServiceTokenProofs

/-! # Host secrets — lookup and rotation

    Secrets live in the environment, under a configured prefix, and in a TOML
    file that is loaded into a `SecretStore`.  `rotate` edits that file and then
    the entries in memory.

    * `rotate_all_or_nothing_iff` — a rotation that fails leaves file and memory
      alone exactly when it does not get past the rename with a file whose other
      entries are invalid: the new text is validated after it was written.
    * `same_secret_iff` — event sources and the Host read the same secret exactly
      for keys without white space at their ends: `HostEventSourceConfig::secret`
      normalizes the key itself and does not trim it. -/

namespace ServiceSecret

open ServiceLoad

/-! ## The store -/

/-- `SecretStore`: the entries in memory and the file behind them. -/
structure SecretStore where
  entries : List (String × String)
  path : Option PathBuf

/-- `SecretStore::resolve`. -/
def SecretStore.resolve (store : SecretStore) (key : String) : Option String :=
  store.entries.lookup (normalizeSecretKey key)

/-- `ConfigError`, with the variants of a rotation. -/
inductive RotateError where
  | secretRotationUnavailable
  | invalidSecretValue (key : String)
  | writeManagedFile (path : PathBuf) (detail : String)
  | config (error : ConfigError)

/-- The `toml` crate on a secret file: `from_str` and `to_string_pretty`.  The
    entries are in the order of the `BTreeMap`. -/
structure SecretToml where
  parse : String → Except String (List (String × String))
  print : List (String × String) → Except String String

/-- How the file operations of a rotation end, and the time in nanoseconds. -/
structure RotateIo where
  read : Except String Unit
  write : Except String Unit
  /-- what an `fs::write` that failed has left -/
  torn : Node
  setPermissions : Except String Unit
  rename : Except String Unit
  nanos : Nat

/-- The secret file and the temporary file beside it. -/
structure SecretDisk where
  file : Node
  temp : Node

/-- The part of a file name before its extension. -/
def fileStem (name : List Char) : List Char :=
  let stem := (name.reverse.dropWhile (· ≠ '.')).reverse.dropLast
  if stem = [] then name else stem

/-- `Path::with_extension` on a path with a file name. -/
def withExtension (path : PathBuf) (extension : String) : PathBuf :=
  match path.parts.getLast? with
  | none => path
  | some name =>
      if name = ".." then path
      else { path with parts := path.parts.dropLast
        ++ [String.ofList (fileStem name.toList) ++ "." ++ extension] }

/-- The temporary file of `atomic_write`. -/
def tempPath (io : RotateIo) (path : PathBuf) : PathBuf :=
  withExtension path ("mutsuki-" ++ String.ofList (Nat.toDigits 16 io.nanos) ++ ".tmp")

/-- `atomic_write` of a secret on a Unix system. -/
def atomicWrite (io : RotateIo) (path : PathBuf) (bytes : String) (disk : SecretDisk) :
    Except RotateError Unit × SecretDisk :=
  match io.write with
  | .error detail =>
      (.error (.writeManagedFile (tempPath io path) detail), { disk with temp := io.torn })
  | .ok () =>
      match io.setPermissions with
      | .error detail =>
          (.error (.writeManagedFile (tempPath io path) detail), { disk with temp := .file bytes })
      | .ok () =>
          match io.rename with
          | .error detail =>
              (.error (.writeManagedFile path detail), { disk with temp := .file bytes })
          | .ok () => (.ok (), ⟨.file bytes, .absent⟩)

/-- `BTreeMap::insert`. -/
def insertEntry (key value : String) : List (String × String) → List (String × String)
  | [] => [(key, value)]
  | (k, v) :: entries =>
      if key < k then (key, value) :: (k, v) :: entries
      else if key = k then (key, value) :: entries
      else (k, v) :: insertEntry key value entries

/-- `BTreeMap::retain` of the entries under other keys. -/
def otherEntries (key : String) (entries : List (String × String)) : List (String × String) :=
  entries.filter fun entry => normalizeSecretKey entry.1 ≠ key

/-- The entries of the file after the rotation. -/
def rotatedEntries (key value : String) (entries : List (String × String)) :
    List (String × String) :=
  insertEntry key value (otherEntries key entries)

/-- What a rotation leaves. -/
structure Rotated where
  result : Except RotateError Unit
  store : SecretStore
  disk : SecretDisk

/-- `SecretStore::rotate`. -/
def rotate (toml : SecretToml) (io : RotateIo) (store : SecretStore) (disk : SecretDisk)
    (key value : String) : Rotated :=
  let key := normalizeSecretKey key
  if key = "" ∨ trim value = "" then ⟨.error (.invalidSecretValue key), store, disk⟩
  else match store.path with
    | none => ⟨.error .secretRotationUnavailable, store, disk⟩
    | some path =>
        match io.read.bind fun () => disk.file.read with
        | .error detail => ⟨.error (.config (.readSecretFile path detail)), store, disk⟩
        | .ok content =>
            match toml.parse content with
            | .error detail => ⟨.error (.config (.parseSecretFile path detail)), store, disk⟩
            | .ok entries =>
                let entries := rotatedEntries key value entries
                match toml.print entries with
                | .error detail =>
                    ⟨.error (.config (.invalidSecretFile path detail)), store, disk⟩
                | .ok text =>
                    match atomicWrite io path text disk with
                    | (.error e, disk) => ⟨.error e, store, disk⟩
                    | (.ok (), disk) =>
                        match validateSecretEntries path [] entries with
                        | .error e => ⟨.error (.config e), store, disk⟩
                        | .ok entries => ⟨.ok (), { store with entries := entries }, disk⟩

/-! ## Entries that validate -/

/-- What `validate_secret_entries` asks of the entries of a file. -/
structure EntriesValid (entries : List (String × String)) : Prop where
  key : ∀ e ∈ entries, normalizeSecretKey e.1 ≠ ""
  value : ∀ e ∈ entries, trim e.2 ≠ ""
  nodup : (entries.map fun e => normalizeSecretKey e.1).Nodup

theorem entriesValid_cons {e : String × String} {entries : List (String × String)} :
    EntriesValid (e :: entries) ↔ normalizeSecretKey e.1 ≠ "" ∧ trim e.2 ≠ "" ∧
      (∀ d ∈ entries, normalizeSecretKey d.1 ≠ normalizeSecretKey e.1) ∧ EntriesValid entries := by
  constructor
  · rintro ⟨hkey, hvalue, hnodup⟩
    rw [List.map_cons, List.nodup_cons] at hnodup
    obtain ⟨hhere, hrest⟩ := List.forall_mem_cons.mp hkey
    obtain ⟨vhere, vrest⟩ := List.forall_mem_cons.mp hvalue
    refine ⟨hhere, vhere, ?_, hrest, vrest, hnodup.2⟩
    intro d hd heq
    exact hnodup.1 (List.mem_map.mpr ⟨d, hd, heq⟩)
  · rintro ⟨hhere, vhere, hnew, hrest, vrest, hnodup⟩
    refine ⟨List.forall_mem_cons.mpr ⟨hhere, hrest⟩, List.forall_mem_cons.mpr ⟨vhere, vrest⟩, ?_⟩
    rw [List.map_cons, List.nodup_cons]
    refine ⟨?_, hnodup⟩
    intro hmem
    obtain ⟨d, hd, heq⟩ := List.mem_map.mp hmem
    exact hnew d hd heq

theorem EntriesValid.perm {entries entries' : List (String × String)}
    (hperm : entries.Perm entries') (h : EntriesValid entries) : EntriesValid entries' where
  key e he := h.key e (hperm.mem_iff.mpr he)
  value e he := h.value e (hperm.mem_iff.mpr he)
  nodup := (hperm.map _).nodup_iff.mp h.nodup

/-- A key is absent from an association list with one more entry. -/
theorem lookup_concat_isSome {secrets : List (String × String)} {key k v : String} :
    ((secrets ++ [(k, v)]).lookup key).isSome = true ↔
      (secrets.lookup key).isSome = true ∨ key = k := by
  induction secrets with
  | nil =>
      by_cases h : key = k
      · simp [h]
      · have hb : (key == k) = false := by simpa using h
        simp [List.lookup_cons, h, hb]
  | cons e secrets ih =>
      obtain ⟨k', v'⟩ := e
      by_cases h : key = k'
      · simp [h]
      · have hb : (key == k') = false := by simpa using h
        simp only [List.cons_append, List.lookup_cons, hb]
        exact ih

/-- `validate_secret_entries` accepts the valid entries that are new. -/
theorem validateSecretEntries_ok_iff {path : PathBuf} {entries secrets : List (String × String)} :
    (∃ result, validateSecretEntries path secrets entries = .ok result) ↔
      EntriesValid entries ∧
        ∀ e ∈ entries, (secrets.lookup (normalizeSecretKey e.1)).isSome = false := by
  induction entries generalizing secrets with
  | nil => exact ⟨fun _ => ⟨⟨nofun, nofun, .nil⟩, nofun⟩, fun _ => ⟨secrets, rfl⟩⟩
  | cons e entries ih =>
      obtain ⟨rawKey, value⟩ := e
      rw [validateSecretEntries, entriesValid_cons, List.forall_mem_cons]
      dsimp only
      split
      · rename_i hkey
        exact ⟨fun ⟨_, h⟩ => (nomatch h), fun h => absurd hkey h.1.1⟩
      · rename_i hkey
        split
        · rename_i hvalue
          exact ⟨fun ⟨_, h⟩ => (nomatch h), fun h => absurd hvalue h.1.2.1⟩
        · rename_i hvalue
          split
          · rename_i hdup
            refine ⟨fun ⟨_, h⟩ => (nomatch h), fun h => ?_⟩
            rw [h.2.1] at hdup
            exact nomatch hdup
          · rename_i hnew
            have hfresh : ∀ d ∈ entries,
                ((secrets ++ [(normalizeSecretKey rawKey, value)]).lookup
                  (normalizeSecretKey d.1)).isSome = false ↔
                (secrets.lookup (normalizeSecretKey d.1)).isSome = false ∧
                  normalizeSecretKey d.1 ≠ normalizeSecretKey rawKey := by
              intro d _
              rw [← Bool.not_eq_true, lookup_concat_isSome, not_or, Bool.not_eq_true]
            rw [ih]
            constructor
            · rintro ⟨hvalid, hnone⟩
              exact ⟨⟨hkey, hvalue, fun d hd => ((hfresh d hd).mp (hnone d hd)).2, hvalid⟩,
                Bool.not_eq_true _ ▸ hnew, fun d hd => ((hfresh d hd).mp (hnone d hd)).1⟩
            · rintro ⟨⟨-, -, hne, hvalid⟩, -, hnone⟩
              exact ⟨hvalid, fun d hd => (hfresh d hd).mpr ⟨hnone d hd, hne d hd⟩⟩

theorem validates_iff {path : PathBuf} {entries : List (String × String)} :
    (∃ result, validateSecretEntries path [] entries = .ok result) ↔ EntriesValid entries := by
  rw [validateSecretEntries_ok_iff]
  exact and_iff_left fun _ _ => rfl

theorem insertEntry_perm {key value : String} {entries : List (String × String)}
    (h : ∀ e ∈ entries, e.1 ≠ key) :
    (insertEntry key value entries).Perm ((key, value) :: entries) := by
  induction entries with
  | nil => exact .refl _
  | cons e entries ih =>
      obtain ⟨k, v⟩ := e
      obtain ⟨hhere, hrest⟩ := List.forall_mem_cons.mp h
      rw [insertEntry]
      split
      · exact .refl _
      · rw [if_neg (Ne.symm hhere)]
        exact ((ih hrest).cons (k, v)).trans (.swap ..)

/-- One character of a normalized key. -/
def normalizeChar (c : Char) : Char := if isAsciiAlphanumeric c then c.toUpper else '_'

theorem normalizeSecretKey_toList (key : String) :
    (normalizeSecretKey key).toList = (trimChars key.toList).map normalizeChar := by
  rw [normalizeSecretKey, String.toList_ofList]
  rfl

/-- Normalized characters are visible and stay as they are. -/
theorem normalizeChar_fixed (c : Char) :
    isWhitespace (normalizeChar c) = false ∧ normalizeChar (normalizeChar c) = normalizeChar c := by
  have hascii : ∀ n < 128, isWhitespace (normalizeChar (Char.ofNat n)) = false ∧
      normalizeChar (normalizeChar (Char.ofNat n)) = normalizeChar (Char.ofNat n) := by
    decide +kernel
  by_cases halnum : isAsciiAlphanumeric c = true
  · have hlt : c.toNat < 128 := by
      simp only [isAsciiAlphanumeric, Bool.or_eq_true, Bool.and_eq_true, decide_eq_true_eq]
        at halnum
      rcases halnum with (⟨-, h⟩ | ⟨-, h⟩) | ⟨-, h⟩
      · exact Nat.lt_of_le_of_lt (show c.toNat ≤ '9'.toNat from h) (by decide)
      · exact Nat.lt_of_le_of_lt (show c.toNat ≤ 'Z'.toNat from h) (by decide)
      · exact Nat.lt_of_le_of_lt (show c.toNat ≤ 'z'.toNat from h) (by decide)
    have h := hascii c.toNat hlt
    rwa [Char.ofNat_toNat] at h
  · rw [show normalizeChar c = '_' from if_neg halnum]
    decide

theorem normalizeSecretKey_idem (key : String) :
    normalizeSecretKey (normalizeSecretKey key) = normalizeSecretKey key := by
  apply String.toList_inj.mp
  rw [normalizeSecretKey_toList, normalizeSecretKey_toList, trimChars_eq_self]
  · rw [List.map_map]
    exact List.map_congr_left fun c _ => (normalizeChar_fixed c).2
  · intro c hc
    obtain ⟨d, -, rfl⟩ := List.mem_map.mp hc
    exact (normalizeChar_fixed d).1

/-- The rotated entry is valid by itself, so only the others count. -/
theorem entriesValid_rotated {key value : String} {entries : List (String × String)}
    (hkey : normalizeSecretKey key ≠ "") (hvalue : trim value ≠ "") :
    EntriesValid (rotatedEntries (normalizeSecretKey key) value entries) ↔
      EntriesValid (otherEntries (normalizeSecretKey key) entries) := by
  have hother : ∀ e ∈ otherEntries (normalizeSecretKey key) entries,
      normalizeSecretKey e.1 ≠ normalizeSecretKey key := by
    intro e he
    exact of_decide_eq_true (List.mem_filter.mp he).2
  have hperm : (rotatedEntries (normalizeSecretKey key) value entries).Perm
      ((normalizeSecretKey key, value) :: otherEntries (normalizeSecretKey key) entries) :=
    insertEntry_perm fun e he heq => hother e he (by rw [heq, normalizeSecretKey_idem])
  constructor
  · intro h
    exact (entriesValid_cons.mp (h.perm hperm)).2.2.2
  · intro h
    refine EntriesValid.perm hperm.symm (entriesValid_cons.mpr ⟨?_, hvalue, ?_, h⟩)
    · rw [normalizeSecretKey_idem]
      exact hkey
    · intro e he
      rw [normalizeSecretKey_idem]
      exact hother e he

/-! ## A rotation that fails -/

/-- The rotation gets past the rename: the file held `content` with `entries` and
    now holds `text`. -/
structure Replaces (toml : SecretToml) (io : RotateIo) (store : SecretStore) (disk : SecretDisk)
    (key value : String) (path : PathBuf) (content : String) (entries : List (String × String))
    (text : String) : Prop where
  keyOk : normalizeSecretKey key ≠ ""
  valueOk : trim value ≠ ""
  pathOk : store.path = some path
  readOk : io.read = .ok ()
  file : disk.file = .file content
  parsed : toml.parse content = .ok entries
  printed : toml.print (rotatedEntries (normalizeSecretKey key) value entries) = .ok text
  writeOk : io.write = .ok ()
  permissionsOk : io.setPermissions = .ok ()
  renameOk : io.rename = .ok ()

theorem read_file {node : Node} {content : String} (h : node.read = .ok content) :
    node = .file content := by
  cases node with
  | file c => cases h; rfl
  | unreadable d => exact nomatch h
  | directory => exact nomatch h
  | absent => exact nomatch h

/-- What is written before the rename is the temporary file. -/
theorem atomicWrite_cases (io : RotateIo) (path : PathBuf) (bytes : String) (disk : SecretDisk) :
    (∃ e disk', atomicWrite io path bytes disk = (.error e, disk') ∧ disk'.file = disk.file) ∨
    (atomicWrite io path bytes disk = (.ok (), ⟨.file bytes, .absent⟩) ∧ io.write = .ok () ∧
      io.setPermissions = .ok () ∧ io.rename = .ok ()) := by
  rw [atomicWrite]
  cases hwrite : io.write with
  | error detail => exact .inl ⟨_, _, rfl, rfl⟩
  | ok =>
      cases hperm : io.setPermissions with
      | error detail => exact .inl ⟨_, _, rfl, rfl⟩
      | ok =>
          cases hrename : io.rename with
          | error detail => exact .inl ⟨_, _, rfl, rfl⟩
          | ok => exact .inr ⟨rfl, rfl, rfl, rfl⟩

/-- A rotation fails with everything as before, or gets past the rename and then
    validates. -/
theorem rotate_cases (toml : SecretToml) (io : RotateIo) (store : SecretStore)
    (disk : SecretDisk) (key value : String) :
    ((∃ e, (rotate toml io store disk key value).result = .error e) ∧
      (rotate toml io store disk key value).store = store ∧
      (rotate toml io store disk key value).disk.file = disk.file) ∨
    ∃ path content entries text,
      Replaces toml io store disk key value path content entries text ∧
      (rotate toml io store disk key value).disk.file = .file text ∧
      ((∃ validated, validateSecretEntries path []
            (rotatedEntries (normalizeSecretKey key) value entries) = .ok validated ∧
          (rotate toml io store disk key value).result = .ok () ∧
          (rotate toml io store disk key value).store = { store with entries := validated }) ∨
        (∃ e, validateSecretEntries path []
            (rotatedEntries (normalizeSecretKey key) value entries) = .error e ∧
          (rotate toml io store disk key value).result = .error (.config e) ∧
          (rotate toml io store disk key value).store = store)) := by
  rw [rotate]
  split
  · exact .inl ⟨⟨_, rfl⟩, rfl, rfl⟩
  · rename_i hargs
    obtain ⟨hkey, hvalue⟩ := not_or.mp hargs
    cases hpath : store.path with
    | none => exact .inl ⟨⟨_, rfl⟩, rfl, rfl⟩
    | some path =>
        dsimp only
        cases hread : io.read.bind fun () => disk.file.read with
        | error detail => exact .inl ⟨⟨_, rfl⟩, rfl, rfl⟩
        | ok content =>
            dsimp only
            cases hparse : toml.parse content with
            | error detail => exact .inl ⟨⟨_, rfl⟩, rfl, rfl⟩
            | ok entries =>
                dsimp only
                cases hprint :
                  toml.print (rotatedEntries (normalizeSecretKey key) value entries) with
                | error detail => exact .inl ⟨⟨_, rfl⟩, rfl, rfl⟩
                | ok text =>
                    dsimp only
                    obtain ⟨e, disk', hwrite, hfile⟩ | ⟨hwrite, hw, hp, hr⟩ :=
                      atomicWrite_cases io path text disk
                    · rw [hwrite]
                      exact .inl ⟨⟨_, rfl⟩, rfl, hfile⟩
                    · rw [hwrite]
                      have hio : io.read = .ok () := by
                        cases hio : io.read with
                        | error d => rw [hio] at hread; exact nomatch hread
                        | ok => rfl
                      rw [hio] at hread
                      refine .inr ⟨path, content, entries, text, ⟨hkey, hvalue, hpath, hio,
                        read_file hread, hparse, hprint, hw, hp, hr⟩, ?_⟩
                      dsimp only
                      cases hvalid : validateSecretEntries path []
                          (rotatedEntries (normalizeSecretKey key) value entries) with
                      | error e => exact ⟨rfl, .inr ⟨e, rfl, rfl, rfl⟩⟩
                      | ok validated => exact ⟨rfl, .inl ⟨validated, rfl, rfl, rfl⟩⟩

/-- A rotation that fails leaves the file and the entries in memory as they
    were. -/
def AllOrNothing (toml : SecretToml) (io : RotateIo) (store : SecretStore) (disk : SecretDisk)
    (key value : String) : Prop :=
  ∀ e, (rotate toml io store disk key value).result = .error e →
    (rotate toml io store disk key value).disk.file = disk.file ∧
      (rotate toml io store disk key value).store.entries = store.entries

theorem Replaces.unique {toml : SecretToml} {io : RotateIo} {store : SecretStore}
    {disk : SecretDisk} {key value : String} {path path' : PathBuf} {content content' : String}
    {entries entries' : List (String × String)} {text text' : String}
    (h : Replaces toml io store disk key value path content entries text)
    (h' : Replaces toml io store disk key value path' content' entries' text') :
    content = content' ∧ entries = entries' := by
  have hfile := h.file.symm.trans h'.file
  cases hfile
  have hparsed := h.parsed.symm.trans h'.parsed
  cases hparsed
  exact ⟨rfl, rfl⟩

/-- The file after a rename is the printed one, whatever the validation says. -/
theorem Replaces.file_rotated {toml : SecretToml} {io : RotateIo} {store : SecretStore}
    {disk : SecretDisk} {key value : String} {path : PathBuf} {content : String}
    {entries : List (String × String)} {text : String}
    (h : Replaces toml io store disk key value path content entries text) :
    (rotate toml io store disk key value).disk.file = .file text := by
  have hread : (io.read.bind fun () => disk.file.read) = .ok content := by
    rw [h.readOk, h.file]
    rfl
  have hwrite : atomicWrite io path text disk = (.ok (), ⟨.file text, .absent⟩) := by
    rw [atomicWrite, h.writeOk, h.permissionsOk, h.renameOk]
  simp only [rotate, h.pathOk, hread, h.parsed, h.printed, hwrite]
  rw [if_neg (not_or.mpr ⟨h.keyOk, h.valueOk⟩)]
  split <;> rfl

/-- **A ROTATION IS ALL OR NOTHING** exactly when the entries it leaves in place
    are valid, or it does not get past the rename, or writes back the text it
    read. -/
theorem rotate_all_or_nothing_iff (toml : SecretToml) (io : RotateIo) (store : SecretStore)
    (disk : SecretDisk) (key value : String) :
    AllOrNothing toml io store disk key value ↔
      ∀ path content entries text,
        Replaces toml io store disk key value path content entries text →
          EntriesValid (otherEntries (normalizeSecretKey key) entries) ∨ text = content := by
  constructor
  · intro hsafe path content entries text hrep
    by_cases hvalid : EntriesValid (rotatedEntries (normalizeSecretKey key) value entries)
    · exact .inl ((entriesValid_rotated hrep.keyOk hrep.valueOk).mp hvalid)
    · -- the validation fails, and the file is the printed one
      obtain ⟨e, he⟩ : ∃ e, (rotate toml io store disk key value).result = .error e := by
        obtain ⟨⟨e, he⟩, -⟩ | ⟨path', content', entries', text', hrep', -,
          ⟨validated, hok, -⟩ | ⟨e, -, he, -⟩⟩ := rotate_cases toml io store disk key value
        · exact ⟨e, he⟩
        · obtain ⟨rfl, rfl⟩ := hrep.unique hrep'
          exact absurd (validates_iff.mp ⟨validated, hok⟩) hvalid
        · exact ⟨_, he⟩
      have hfile := (hsafe e he).1
      rw [hrep.file_rotated, hrep.file] at hfile
      cases hfile
      exact .inr rfl
  · intro hcond e he
    obtain ⟨-, hstore, hfile⟩ | ⟨path, content, entries, text, hrep, hfile,
      ⟨validated, -, hok, -⟩ | ⟨e', hinvalid, -, hstore⟩⟩ := rotate_cases toml io store disk key value
    · exact ⟨hfile, congrArg SecretStore.entries hstore⟩
    · rw [hok] at he
      exact nomatch he
    · rcases hcond path content entries text hrep with hothers | htext
      · have hvalid := (entriesValid_rotated hrep.keyOk hrep.valueOk).mpr hothers
        obtain ⟨validated, hok⟩ : ∃ result, validateSecretEntries path []
            (rotatedEntries (normalizeSecretKey key) value entries) = .ok result :=
          validates_iff.mpr hvalid
        rw [hok] at hinvalid
        exact nomatch hinvalid
      · refine ⟨?_, congrArg SecretStore.entries hstore⟩
        rw [hfile, hrep.file, htext]

/-- A secret file with plain values. -/
def secretText (entries : List (String × String)) : String :=
  "[secrets]\n" ++ String.join (entries.map fun e => e.1 ++ " = \"" ++ e.2 ++ "\"\n")

/-- `toml` on two secret files. -/
def sampleToml : SecretToml where
  parse text :=
    if text = secretText [("BLANK", ""), ("TOKEN", "old")] then
      .ok [("BLANK", ""), ("TOKEN", "old")]
    else .error "expected a table"
  print entries := .ok (secretText entries)

/-- All file operations succeed. -/
def smoothIo : RotateIo := ⟨.ok (), .ok (), .absent, .ok (), .ok (), 1⟩

/-- A store whose file was edited since it was loaded. -/
def editedStore : SecretStore := ⟨[("TOKEN", "old")], some ⟨true, ["etc", "local.secret.toml"]⟩⟩

/-- The edited file: an entry without a value beside the one to rotate. -/
def editedDisk : SecretDisk := ⟨.file (secretText [("BLANK", ""), ("TOKEN", "old")]), .absent⟩

/-- A failed rotation has replaced the file. -/
theorem failed_rotation_replaces_file :
    (∃ e, (rotate sampleToml smoothIo editedStore editedDisk "token" "new").result = .error e) ∧
      (rotate sampleToml smoothIo editedStore editedDisk "token" "new").disk.file
        = .file (secretText [("BLANK", ""), ("TOKEN", "new")]) ∧
      ¬ AllOrNothing sampleToml smoothIo editedStore editedDisk "token" "new" := by
  have herror : (rotate sampleToml smoothIo editedStore editedDisk "token" "new").result
      = .error (.config (.invalidSecretFile ⟨true, ["etc", "local.secret.toml"]⟩
        "secret BLANK must not be empty")) := by
    rfl
  have hfile : (rotate sampleToml smoothIo editedStore editedDisk "token" "new").disk.file
      = .file (secretText [("BLANK", ""), ("TOKEN", "new")]) := by
    rfl
  refine ⟨⟨_, herror⟩, hfile, ?_⟩
  intro hsafe
  have hsame := (hsafe _ herror).1
  rw [hfile] at hsame
  have htext := Node.file.inj hsame
  exact absurd htext (by decide)

/-! ## Two ways to read a secret -/

/-- What the secret boundaries take of a `ServiceConfig`. -/
structure SecretConfig where
  secretEnvPrefix : String
  secretStore : SecretStore

/-- `HostSecretStore`. -/
structure HostSecretStore where
  store : SecretStore
  envPrefix : String

/-- `HostSecretStore::resolve`; `env` is `env::var`. -/
def HostSecretStore.resolve (host : HostSecretStore) (env : String → Option String)
    (key : String) : Option String :=
  let key := normalizeSecretKey key
  match env (host.envPrefix ++ key) with
  | some value => some value
  | none => host.store.resolve key

/-- `ServiceConfig::secret`, through `host_secret_store`. -/
def SecretConfig.secret (config : SecretConfig) (env : String → Option String) (key : String) :
    Option String :=
  HostSecretStore.resolve ⟨config.secretStore, config.secretEnvPrefix⟩ env key

/-- `HostEventSourceConfig`. -/
structure HostEventSourceConfig where
  secretEnvPrefix : String
  secretStore : SecretStore

/-- `HostEventSourceConfig::from_service`. -/
def HostEventSourceConfig.fromService (config : SecretConfig) : HostEventSourceConfig :=
  ⟨config.secretEnvPrefix, config.secretStore⟩

/-- `HostEventSourceConfig::secret`, with its own copy of the normalization. -/
def HostEventSourceConfig.secret (source : HostEventSourceConfig)
    (env : String → Option String) (key : String) : Option String :=
  let key := String.ofList (key.toList.map normalizeChar)
  match env (source.secretEnvPrefix ++ key) with
  | some value => some value
  | none => source.secretStore.resolve key

/-- `HostEventSourceConfig::contains_secret`. -/
def HostEventSourceConfig.containsSecret (source : HostEventSourceConfig)
    (env : String → Option String) (key : String) : Bool :=
  match source.secret env key with
  | some value => value ≠ ""
  | none => false

/-- `HostEventSourceDescriptor`. -/
structure SourceDescriptor where
  sourceId : String
  pluginId : String
  instanceId : String
  requiredSecrets : List String

/-- The required secrets of a source, after the keys in `seen`. -/
def validateSecrets (env : String → Option String) (config : HostEventSourceConfig)
    (sourceId : String) :
    List String → List String → Except String Unit
  | _, [] => .ok ()
  | seen, key :: keys =>
      if trim key = "" ∨ key ∈ seen then
        .error ("event source " ++ sourceId
          ++ " must declare non-empty unique required secret keys")
      else if config.containsSecret env key = false then
        .error ("event source " ++ sourceId ++ " requires missing Host secret " ++ key)
      else validateSecrets env config sourceId (key :: seen) keys

/-- `validate_event_sources`, after the sources with the ids in `seen`; the text
    of its `ServiceRuntimeError::EventSource`. -/
def validateEventSources (env : String → Option String) (config : SecretConfig) :
    List String → List SourceDescriptor → Except String Unit
  | _, [] => .ok ()
  | seen, source :: sources =>
      if trim source.sourceId = "" ∨ trim source.pluginId = "" ∨ trim source.instanceId = "" then
        .error "source id, plugin id and instance id must not be empty"
      else if source.sourceId ∈ seen then
        .error ("duplicate event source id " ++ source.sourceId)
      else
        match validateSecrets env (.fromService config) source.sourceId [] source.requiredSecrets with
        | .error e => .error e
        | .ok () => validateEventSources env config (source.sourceId :: seen) sources

/-- The Host resolves the key to a value that is not empty. -/
def HostHas (env : String → Option String) (config : SecretConfig) (key : String) : Prop :=
  ∃ value, config.secret env key = some value ∧ value ≠ ""

/-- An event source and the Host agree on `key`: they read the same secret, and a
    source that requires it passes the preflight exactly when the Host has it. -/
structure SameSecret (key : String) : Prop where
  secret : ∀ env config,
    (HostEventSourceConfig.fromService config).secret env key = config.secret env key
  preflight : ∀ env config source, trim key ≠ "" → trim source.sourceId ≠ "" →
    trim source.pluginId ≠ "" → trim source.instanceId ≠ "" → source.requiredSecrets = [key] →
    (validateEventSources env config [] [source] = .ok () ↔ HostHas env config key)

/-- White space taken off leaves a part of the text. -/
theorem trimChars_infixOf (l : List Char) : trimChars l <:+: l := by
  have hfront : l.dropWhile isWhitespace <:+: l := (List.dropWhile_suffix _).isInfix
  have hback : trimChars l <+: l.dropWhile isWhitespace := by
    rw [← List.reverse_suffix, trimChars, List.reverse_reverse]
    exact List.dropWhile_suffix _
  exact hback.isInfix.trans hfront

theorem trim_eq_self_iff {key : String} : trim key = key ↔ trimChars key.toList = key.toList := by
  rw [trim]
  constructor
  · intro h
    have := congrArg String.toList h
    rwa [String.toList_ofList] at this
  · intro h
    rw [h, String.ofList_toList]

/-- The two normalizations agree exactly on keys without white space at their
    ends. -/
theorem normalizations_agree_iff {key : String} :
    String.ofList (key.toList.map normalizeChar) = normalizeSecretKey key ↔ trim key = key := by
  rw [trim_eq_self_iff]
  constructor
  · intro h
    have hlen := congrArg (fun s => s.toList.length) h
    simp only [String.toList_ofList, normalizeSecretKey_toList, List.length_map] at hlen
    exact (trimChars_infixOf key.toList).eq_of_length hlen.symm
  · intro h
    apply String.toList_inj.mp
    rw [normalizeSecretKey_toList, h, String.toList_ofList]

theorem containsSecret_iff {env : String → Option String} {source : HostEventSourceConfig}
    {key : String} :
    source.containsSecret env key = true ↔
      ∃ value, source.secret env key = some value ∧ value ≠ "" := by
  rw [HostEventSourceConfig.containsSecret]
  cases source.secret env key with
  | none => simp
  | some value => simp

/-- A source that requires one secret is valid if the secret is there. -/
theorem validateEventSources_single {env : String → Option String} {config : SecretConfig}
    {source : SourceDescriptor} {key : String} (hkey : trim key ≠ "")
    (hsource : trim source.sourceId ≠ "") (hplugin : trim source.pluginId ≠ "")
    (hinstance : trim source.instanceId ≠ "") (hrequired : source.requiredSecrets = [key]) :
    validateEventSources env config [] [source] = .ok () ↔
      (HostEventSourceConfig.fromService config).containsSecret env key = true := by
  rw [validateEventSources, if_neg (by simp [hsource, hplugin, hinstance]),
    if_neg List.not_mem_nil, hrequired, validateSecrets, if_neg (by simp [hkey])]
  cases (HostEventSourceConfig.fromService config).containsSecret env key with
  | false =>
      rw [if_pos rfl]
      exact ⟨fun h => (nomatch h), fun h => (nomatch h)⟩
  | true =>
      rw [if_neg nofun]
      exact ⟨fun _ => rfl, fun _ => rfl⟩

/-- **EVENT SOURCES AND THE HOST READ THE SAME SECRET** exactly under keys
    without white space at their ends. -/
theorem same_secret_iff (key : String) : SameSecret key ↔ trim key = key := by
  constructor
  · intro h
    rw [← normalizations_agree_iff]
    by_contra hne
    -- the one variable that is set is the one the source asks for
    have hsame := h.secret
      (fun name => if name = String.ofList (key.toList.map normalizeChar) then some "" else none)
      ⟨"", ⟨[], none⟩⟩
    simp only [HostEventSourceConfig.secret, HostEventSourceConfig.fromService,
      SecretConfig.secret, HostSecretStore.resolve, String.empty_append, SecretStore.resolve,
      List.lookup_nil] at hsame
    rw [if_pos trivial, if_neg (Ne.symm hne)] at hsame
    cases hsame
  · intro htrim
    have hsecret : ∀ env config,
        (HostEventSourceConfig.fromService config).secret env key = config.secret env key := by
      intro env config
      rw [HostEventSourceConfig.secret, normalizations_agree_iff.mpr htrim]
      rfl
    refine ⟨hsecret, ?_⟩
    intro env config source hkey hsource hplugin hinstance hrequired
    rw [validateEventSources_single hkey hsource hplugin hinstance hrequired, containsSecret_iff,
      hsecret]
    rfl

/-- An environment with one Host secret. -/
def tokenEnv (name : String) : Option String :=
  if name = "MUTSUKI_SECRET_TOKEN" then some "abc" else none

/-- A configuration without a secret file. -/
def envConfig : SecretConfig := ⟨"MUTSUKI_SECRET_", ⟨[], none⟩⟩

/-- A key with a space in front is found by the Host and missing for an event
    source that requires it. -/
theorem padded_key_missing_for_source :
    envConfig.secret tokenEnv " token" = some "abc" ∧
      (HostEventSourceConfig.fromService envConfig).secret tokenEnv " token" = none ∧
      validateEventSources tokenEnv envConfig [] [⟨"feed", "echo", "feed", [" token"]⟩]
        = .error "event source feed requires missing Host secret  token" := by
  refine ⟨by decide, by decide, ?_⟩
  rfl

end ServiceSecret
