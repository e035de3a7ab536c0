import MutsukiServiceHost.ServiceSecretProofs
import MutsukiServiceHost.ServiceSerdeProofs
import MutsukiServiceHost.TreePathProofs

/-! # Managed documents — TOML values, conversion from JSON, the write

    A product configuration file is edited as a `toml::Value`: read, changed in
    place, printed and written over the old file.  The file has the values, the
    conversion of a JSON value into one, and the way to the disk and back.

    * `jsonToToml_ok_iff` — the conversion succeeds exactly without null and
      without an integer above `i64::MAX`, at any depth.
    * `toJson_jsonToToml` — what it gives is read back as the same JSON. -/

namespace ServiceDocument

open SerdeContent
open ServiceControl
open ServiceLoad (ConfigError PathBuf Node trim)
open ServiceSecret (RotateError RotateIo SecretDisk)

/-! ## Values -/

/-- `toml::Value`: an integer is an `i64`, a float the bits of a double, and a
    table a `BTreeMap`. -/
inductive Toml where
  | string (s : String)
  | integer (n : Int)
  | float (bits : UInt64)
  | boolean (b : Bool)
  | datetime (text : String)
  | array (items : List Toml)
  | table (entries : List (String × Toml))

/-- `Value::get` with a key: only a table has something under it. -/
def Toml.get : Toml → String → Option Toml
  | .table entries, key => entries.lookup key
  | _, _ => none

/-- `Value::as_str`. -/
def Toml.asStr : Toml → Option String
  | .string s => some s
  | _ => none

/-- A step into a document: the key of a table or the index of an array. -/
inductive Label where
  | key (k : String)
  | index (i : Nat)
  deriving DecidableEq, Repr

/-- What stands under a label. -/
def Toml.child : Toml → Label → Option Toml
  | .table entries, .key k => entries.lookup k
  | .array items, .index i => items[i]?
  | _, _ => none

/-- What stands at a place of the document. -/
def Toml.at (document : Toml) (place : List Label) : Option Toml :=
  TreePath.follow Toml.child (some document) place

/-- The documents agree at every place that is neither above nor below one of
    the given ones. -/
def SameOff (places : List (List Label)) (document document' : Toml) : Prop :=
  TreePath.SameOff Toml.child places (some document) (some document')

mutual

/-- What `Serialize` makes of a value. -/
def Toml.content : Toml → Content
  | .string s => .str s
  | .integer n => .int n
  | .float bits => .float bits
  | .boolean b => .bool b
  | .datetime text => .map [("$__toml_private_datetime", .str text)]
  | .array items => .seq (contentItems items)
  | .table entries => .map (contentEntries entries)

/-- The elements of an array. -/
def contentItems : List Toml → List Content
  | [] => []
  | item :: items => item.content :: contentItems items

/-- The entries of a table. -/
def contentEntries : List (String × Toml) → List (String × Content)
  | [] => []
  | (key, value) :: entries => (key, value.content) :: contentEntries entries

end

/-- The value read as JSON. -/
def Toml.toJson (value : Toml) : Value := Value.deserialize value.content

/-- What stands below a key. -/
theorem at_key_iff {document node : Toml} {k : String} {place : List Label} :
    document.at (.key k :: place) = some node ↔
      ∃ entries child, document = .table entries ∧ entries.lookup k = some child ∧
        child.at place = some node := by
  have hstep : document.at (.key k :: place)
      = TreePath.follow Toml.child (document.child (.key k)) place := rfl
  rw [hstep]
  constructor
  · intro h
    cases hchild : document.child (.key k) with
    | none =>
        rw [hchild, TreePath.follow_none] at h
        exact nomatch h
    | some child =>
        rw [hchild] at h
        cases document with
        | table entries => exact ⟨entries, child, rfl, hchild, h⟩
        | string _ | integer _ | float _ | boolean _ | datetime _ | array _ => cases hchild
  · rintro ⟨entries, child, rfl, hchild, h⟩
    have hlabel : (Toml.table entries).child (.key k) = some child := hchild
    rw [hlabel]
    exact h

/-- What stands below an inserted key, -/
theorem at_insertKey (k : String) (value : Toml) (entries : List (String × Toml))
    (place : List Label) :
    (Toml.table (insertKey k value entries)).at (.key k :: place) = value.at place := by
  have hchild : (Toml.table (insertKey k value entries)).child (.key k) = some value := by
    rw [Toml.child, lookup_insertKey, if_pos rfl]
  show TreePath.follow Toml.child
    ((Toml.table (insertKey k value entries)).child (.key k)) place = _
  rw [hchild]
  rfl

/-- and what stays beside it. -/
theorem sameOff_insertKey {k : String} {value : Toml} {entries : List (String × Toml)}
    {place : List Label}
    (h : TreePath.SameOff Toml.child [place] (entries.lookup k) (some value)) :
    SameOff [.key k :: place] (.table entries) (.table (insertKey k value entries)) := by
  refine TreePath.SameOff.below ?_ ?_
  · intro label hlabel
    cases label with
    | index i => rfl
    | key k' =>
        have hne : k' ≠ k := fun heq => hlabel (congrArg Label.key heq)
        show (insertKey k value entries).lookup k' = entries.lookup k'
        rw [lookup_insertKey, if_neg hne]
  · show TreePath.SameOff Toml.child [place] (entries.lookup k)
      ((insertKey k value entries).lookup k)
    rw [lookup_insertKey, if_pos rfl]
    exact h

/-! ## From JSON -/

/-- The numbers of `json_to_toml`: a `NegInt` is an `i64` and a `PosInt` a
    `u64`. -/
def numberToToml : Number → Except String Toml
  | .posInt n =>
      if n < 2 ^ 63 then .ok (.integer n) else .error "unsigned integer exceeds TOML range"
  | .negInt n => .ok (.integer (Int.negSucc n))
  | .float bits => .ok (.float bits)

mutual

/-- `json_to_toml`. -/
def jsonToToml : Value → Except String Toml
  | .null => .error "null values are not representable in TOML"
  | .bool b => .ok (.boolean b)
  | .number n => numberToToml n
  | .string s => .ok (.string s)
  | .array items =>
      match itemsToToml items with
      | .error e => .error e
      | .ok items => .ok (.array items)
  | .object members =>
      match membersToToml members with
      | .error e => .error e
      | .ok entries => .ok (.table (collect entries))

/-- The elements of an array, up to the first that fails. -/
def itemsToToml : List Value → Except String (List Toml)
  | [] => .ok []
  | value :: items =>
      match jsonToToml value with
      | .error e => .error e
      | .ok item =>
          match itemsToToml items with
          | .error e => .error e
          | .ok items => .ok (item :: items)

/-- The members of an object, up to the first that fails. -/
def membersToToml : List (String × Value) → Except String (List (String × Toml))
  | [] => .ok []
  | (key, value) :: members =>
      match jsonToToml value with
      | .error e => .error e
      | .ok item =>
          match membersToToml members with
          | .error e => .error e
          | .ok entries => .ok ((key, item) :: entries)

end

mutual

/-- No null and no integer above `i64::MAX`, at any depth. -/
def Representable : Value → Prop
  | .null => False
  | .bool _ => True
  | .number (.posInt n) => n < 2 ^ 63
  | .number (.negInt _) => True
  | .number (.float _) => True
  | .string _ => True
  | .array items => RepresentableItems items
  | .object members => RepresentableMembers members

/-- The elements of an array. -/
def RepresentableItems : List Value → Prop
  | [] => True
  | value :: items => Representable value ∧ RepresentableItems items

/-- The members of an object. -/
def RepresentableMembers : List (String × Value) → Prop
  | [] => True
  | (_, value) :: members => Representable value ∧ RepresentableMembers members

end

mutual

/-- **WHAT TOML CAN SAY**, by recursion on the value. -/
theorem jsonToToml_ok_iff : ∀ value : Value,
    (∃ item, jsonToToml value = .ok item) ↔ Representable value
  | .null => ⟨fun ⟨_, h⟩ => (nomatch h), False.elim⟩
  | .bool b => ⟨fun _ => trivial, fun _ => ⟨_, rfl⟩⟩
  | .number (.posInt n) => by
      rw [jsonToToml, numberToToml, Representable]
      by_cases h : n < 2 ^ 63
      · rw [if_pos h]
        exact ⟨fun _ => h, fun _ => ⟨_, rfl⟩⟩
      · rw [if_neg h]
        exact ⟨fun ⟨_, hn⟩ => (nomatch hn), fun hn => absurd hn h⟩
  | .number (.negInt n) => ⟨fun _ => trivial, fun _ => ⟨_, rfl⟩⟩
  | .number (.float bits) => ⟨fun _ => trivial, fun _ => ⟨_, rfl⟩⟩
  | .string s => ⟨fun _ => trivial, fun _ => ⟨_, rfl⟩⟩
  | .array items => by
      rw [jsonToToml, Representable, ← itemsToToml_ok_iff items]
      cases itemsToToml items with
      | error e => exact ⟨fun ⟨_, h⟩ => (nomatch h), fun ⟨_, h⟩ => (nomatch h)⟩
      | ok list => exact ⟨fun _ => ⟨_, rfl⟩, fun _ => ⟨_, rfl⟩⟩
  | .object members => by
      rw [jsonToToml, Representable, ← membersToToml_ok_iff members]
      cases membersToToml members with
      | error e => exact ⟨fun ⟨_, h⟩ => (nomatch h), fun ⟨_, h⟩ => (nomatch h)⟩
      | ok entries => exact ⟨fun _ => ⟨_, rfl⟩, fun _ => ⟨_, rfl⟩⟩

theorem itemsToToml_ok_iff : ∀ items : List Value,
    (∃ list, itemsToToml items = .ok list) ↔ RepresentableItems items
  | [] => ⟨fun _ => trivial, fun _ => ⟨_, rfl⟩⟩
  | value :: items => by
      rw [itemsToToml, RepresentableItems, ← jsonToToml_ok_iff value, ← itemsToToml_ok_iff items]
      cases jsonToToml value with
      | error e => exact ⟨fun ⟨_, h⟩ => (nomatch h), fun ⟨⟨_, h⟩, _⟩ => (nomatch h)⟩
      | ok item =>
          cases itemsToToml items with
          | error e => exact ⟨fun ⟨_, h⟩ => (nomatch h), fun ⟨_, ⟨_, h⟩⟩ => (nomatch h)⟩
          | ok list => exact ⟨fun _ => ⟨⟨_, rfl⟩, ⟨_, rfl⟩⟩, fun _ => ⟨_, rfl⟩⟩

theorem membersToToml_ok_iff : ∀ members : List (String × Value),
    (∃ entries, membersToToml members = .ok entries) ↔ RepresentableMembers members
  | [] => ⟨fun _ => trivial, fun _ => ⟨_, rfl⟩⟩
  | (key, value) :: members => by
      rw [membersToToml, RepresentableMembers, ← jsonToToml_ok_iff value,
        ← membersToToml_ok_iff members]
      cases jsonToToml value with
      | error e => exact ⟨fun ⟨_, h⟩ => (nomatch h), fun ⟨⟨_, h⟩, _⟩ => (nomatch h)⟩
      | ok item =>
          cases membersToToml members with
          | error e => exact ⟨fun ⟨_, h⟩ => (nomatch h), fun ⟨_, ⟨_, h⟩⟩ => (nomatch h)⟩
          | ok entries => exact ⟨fun _ => ⟨⟨_, rfl⟩, ⟨_, rfl⟩⟩, fun _ => ⟨_, rfl⟩⟩

end

/-- The keys of the members stay. -/
theorem membersToToml_keys : ∀ {members : List (String × Value)} {entries : List (String × Toml)},
    membersToToml members = .ok entries → entries.map Prod.fst = members.map Prod.fst
  | [], _, h => by rw [← Except.ok.inj h, List.map_nil, List.map_nil]
  | (key, value) :: members, entries, h => by
      rw [membersToToml] at h
      split at h
      · exact nomatch h
      · split at h
        · exact nomatch h
        · rename_i rest hrest
          rw [← Except.ok.inj h, List.map_cons, List.map_cons, membersToToml_keys hrest]

theorem ascending_of_keys {α β : Type} {entries : List (String × α)} {members : List (String × β)}
    (hkeys : entries.map Prod.fst = members.map Prod.fst) (h : Ascending members) :
    Ascending entries := by
  have hmembers : (members.map Prod.fst).Pairwise (· < ·) := List.pairwise_map.mpr h
  rw [← hkeys] at hmembers
  exact List.pairwise_map.mp hmembers

mutual

/-- TOML says what JSON said, by recursion on the value. -/
theorem content_jsonToToml : ∀ {value : Value} {item : Toml}, value.Proper →
    jsonToToml value = .ok item → item.content = value.serialize
  | .null, _, _, h => nomatch h
  | .bool _, _, _, h => by rw [← Except.ok.inj h]; rfl
  | .number (.posInt n), item, _, h => by
      rw [jsonToToml, numberToToml] at h
      split at h
      · rw [← Except.ok.inj h]
        rfl
      · exact nomatch h
  | .number (.negInt _), _, _, h => by rw [← Except.ok.inj h]; rfl
  | .number (.float _), _, _, h => by rw [← Except.ok.inj h]; rfl
  | .string _, _, _, h => by rw [← Except.ok.inj h]; rfl
  | .array items, _, .array _ hproper, h => by
      rw [jsonToToml] at h
      split at h
      · exact nomatch h
      · rename_i list hlist
        rw [← Except.ok.inj h, Toml.content, Value.serialize, content_itemsToToml hproper hlist]
  | .object members, _, .object _ hascending hproper, h => by
      rw [jsonToToml] at h
      split at h
      · exact nomatch h
      · rename_i entries hentries
        rw [← Except.ok.inj h,
          collect_of_ascending (ascending_of_keys (membersToToml_keys hentries) hascending),
          Toml.content, Value.serialize, content_membersToToml hproper hentries]

theorem content_itemsToToml : ∀ {items : List Value} {list : List Toml}, (∀ v ∈ items, v.Proper) →
    itemsToToml items = .ok list → contentItems list = serializeItems items
  | [], _, _, h => by rw [← Except.ok.inj h]; rfl
  | value :: items, _, hproper, h => by
      obtain ⟨hvalue, hitems⟩ := List.forall_mem_cons.mp hproper
      rw [itemsToToml] at h
      split at h
      · exact nomatch h
      · rename_i item hitem
        split at h
        · exact nomatch h
        · rename_i list hlist
          rw [← Except.ok.inj h, contentItems, serializeItems, content_jsonToToml hvalue hitem,
            content_itemsToToml hitems hlist]

theorem content_membersToToml : ∀ {members : List (String × Value)}
    {entries : List (String × Toml)}, (∀ m ∈ members, m.2.Proper) →
    membersToToml members = .ok entries → contentEntries entries = serializeMembers members
  | [], _, _, h => by rw [← Except.ok.inj h]; rfl
  | (key, value) :: members, _, hproper, h => by
      obtain ⟨hvalue, hmembers⟩ := List.forall_mem_cons.mp hproper
      rw [membersToToml] at h
      split at h
      · exact nomatch h
      · rename_i item hitem
        split at h
        · exact nomatch h
        · rename_i entries hentries
          rw [← Except.ok.inj h, contentEntries, serializeMembers, content_jsonToToml hvalue hitem,
            content_membersToToml hmembers hentries]

end

/-- **A CONVERTED VALUE IS READ BACK.** -/
theorem toJson_jsonToToml {value : Value} {item : Toml} (hproper : value.Proper)
    (h : jsonToToml value = .ok item) : item.toJson = value := by
  rw [Toml.toJson, content_jsonToToml hproper h, Value.deserialize_serialize hproper]

/-! ## The file -/

/-- The `toml` crate on documents: `from_str` and `to_string_pretty`. -/
structure TomlFormat where
  parse : String → Except String Toml
  print : Toml → Except String String

/-- The document is printed and read back. -/
def TomlFormat.Faithful (format : TomlFormat) (document : Toml) : Prop :=
  ∃ text, format.print document = .ok text ∧ format.parse text = .ok document

/-- `ConfigError`, with the variants of a managed document. -/
inductive ManagedError where
  | config (error : ConfigError)
  | configuredPluginNotFound (pluginId : String) (path : PathBuf)
  | invalidConfiguredPluginValue (pluginId detail : String)
  | productSurfaceReadOnly (field : String)
  | unknownProductSurfaceField (field : String)
  | invalidProductSurfaceValue (field detail : String)
  /-- `WriteManagedFile` -/
  | write (error : RotateError)

/-- How the file operations end, and the time in nanoseconds. -/
structure ManagedIo where
  read : Except String Unit
  write : Except String Unit
  /-- what an `fs::write` that failed has left -/
  torn : Node
  rename : Except String Unit
  nanos : Nat

/-- All of them succeed. -/
structure ManagedIo.Succeeds (io : ManagedIo) : Prop where
  readOk : io.read = .ok ()
  writeOk : io.write = .ok ()
  renameOk : io.rename = .ok ()

/-- `atomic_write` without `secret`: no permissions are set. -/
def atomicWrite (io : ManagedIo) (path : PathBuf) (bytes : String) (disk : SecretDisk) :
    Except RotateError Unit × SecretDisk :=
  ServiceSecret.atomicWrite ⟨io.read, io.write, io.torn, .ok (), io.rename, io.nanos⟩ path
    bytes disk

/-- `ConfiguredPluginStore::read_document`. -/
def readDocument (format : TomlFormat) (io : ManagedIo) (path : PathBuf) (disk : SecretDisk) :
    Except ManagedError Toml :=
  match io.read.bind fun () => disk.file.read with
  | .error detail => .error (.config (.readFile path detail))
  | .ok content =>
      match format.parse content with
      | .error detail => .error (.config (.parseFile path detail))
      | .ok document => .ok document

theorem readDocument_eq {format : TomlFormat} {io : ManagedIo} {path : PathBuf} {disk : SecretDisk}
    {content : String} {document : Toml} (hread : io.read = .ok ())
    (hfile : disk.file = .file content) (hparse : format.parse content = .ok document) :
    readDocument format io path disk = .ok document := by
  have hcontent : (io.read.bind fun () => disk.file.read) = .ok content := by
    rw [hread, hfile]
    rfl
  rw [readDocument, hcontent]
  dsimp only
  rw [hparse]

/-- A document that was read is that of the file. -/
theorem readDocument_ok {format : TomlFormat} {io : ManagedIo} {path : PathBuf} {disk : SecretDisk}
    {document : Toml} (h : readDocument format io path disk = .ok document) :
    ∃ content, disk.file = .file content ∧ format.parse content = .ok document := by
  rw [readDocument] at h
  split at h
  · exact nomatch h
  · rename_i content hcontent
    split at h
    · exact nomatch h
    · rename_i found hparse
      obtain rfl : found = document := Except.ok.inj h
      cases hread : io.read with
      | error detail =>
          rw [hread] at hcontent
          exact nomatch hcontent
      | ok =>
          rw [hread] at hcontent
          exact ⟨content, ServiceSecret.read_file hcontent, hparse⟩

theorem atomicWrite_eq {io : ManagedIo} (hio : io.Succeeds) (path : PathBuf) (bytes : String)
    (disk : SecretDisk) : atomicWrite io path bytes disk = (.ok (), ⟨.file bytes, .absent⟩) := by
  rw [atomicWrite, ServiceSecret.atomicWrite, hio.writeOk, hio.renameOk]

/-- A write replaces the file or leaves it alone. -/
theorem atomicWrite_cases (io : ManagedIo) (path : PathBuf) (bytes : String) (disk : SecretDisk) :
    (∃ e disk', atomicWrite io path bytes disk = (.error e, disk') ∧ disk'.file = disk.file) ∨
      atomicWrite io path bytes disk = (.ok (), ⟨.file bytes, .absent⟩) := by
  obtain ⟨e, disk', hcase, hfile⟩ | ⟨hcase, -⟩ := ServiceSecret.atomicWrite_cases
    ⟨io.read, io.write, io.torn, .ok (), io.rename, io.nanos⟩ path bytes disk
  · exact .inl ⟨e, disk', hcase, hfile⟩
  · exact .inr hcase

end ServiceDocument
