import MutsukiServiceHost.ServiceDocumentProofs

/-! # Product surface — `ConfiguredPluginStore::patch_product_surface`

    A patch sets up to four fields of the product file, one after the other, in
    a copy that is printed at the end.  Tables on the way are made when they are
    missing.

    Setting a value at a place of a document is `Toml.put`, which asks nothing
    and commutes at places apart from each other.  The helpers of the source
    are that, on documents that admit the place.

    * `patch_product_surface_law` — a patch fails exactly for a field that
      cannot be set, and then the file is as it was; otherwise the document has
      the given values and is the same elsewhere.  The same patch again changes
      nothing, and patches of different fields commute. -/

namespace ServiceDocument

open SerdeContent
open ServiceControl
open ServiceLoad (Node PathBuf)
open ServiceSecret (SecretDisk)

/-! ## Setting a value -/

/-- The entries of a table; nothing else has any. -/
def Toml.entries : Toml → List (String × Toml)
  | .table entries => entries
  | _ => []

/-- The document with a value at a place; what is no table on the way becomes
    one. -/
def Toml.put : List String → Toml → Toml → Toml
  | [], _, value => value
  | key :: place, document, value =>
      .table (insertKey key (Toml.put place ((document.entries.lookup key).getD (.table [])) value)
        document.entries)

/-- What stands on the way to the place is a table or missing. -/
def Toml.Admits : Toml → List String → Prop
  | _, [] => True
  | document, key :: place =>
      (∃ entries, document = .table entries) ∧
        ∀ node, document.entries.lookup key = some node → node.Admits place

/-- The place of keys only. -/
def keys (place : List String) : List Label := place.map Label.key

theorem put_cons (key : String) (place : List String) (document value : Toml) :
    document.put (key :: place) value
      = .table (insertKey key (((document.entries.lookup key).getD (.table [])).put place value)
          document.entries) := rfl

theorem entries_put_lookup (key : String) (place : List String) (value document : Toml)
    (k : String) :
    (document.put (key :: place) value).entries.lookup k =
      if k = key then some (((document.entries.lookup key).getD (.table [])).put place value)
      else document.entries.lookup k := by
  rw [put_cons, Toml.entries, lookup_insertKey]

/-- The value is in its place. -/
theorem put_at (place : List String) (value document : Toml) :
    (document.put place value).at (keys place) = some value := by
  induction place generalizing document with
  | nil => rfl
  | cons key place ih =>
      rw [put_cons, keys, List.map_cons, at_insertKey]
      exact ih _

/-- The last value counts. -/
theorem put_put (place : List String) (value value' document : Toml) :
    (document.put place value').put place value = document.put place value := by
  induction place generalizing document with
  | nil => rfl
  | cons key place ih =>
      rw [put_cons, entries_put_lookup, if_pos rfl, Option.getD_some, ih, put_cons, Toml.entries,
        insertKey_insertKey, put_cons]

/-- Values at places apart can be set in either order. -/
theorem put_comm {p q : List String} (h : TreePath.Apart p q) (value value' document : Toml) :
    (document.put q value').put p value = (document.put p value).put q value' := by
  induction p generalizing q document with
  | nil => exact absurd h.symm (TreePath.not_apart_nil q)
  | cons key p ih =>
      cases q with
      | nil => exact absurd h (TreePath.not_apart_nil _)
      | cons key' q =>
          rw [put_cons key p, put_cons key' q (document.put (key :: p) value), entries_put_lookup,
            entries_put_lookup]
          by_cases hkey : key = key'
          · subst hkey
            rw [if_pos rfl, if_pos rfl, Option.getD_some, Option.getD_some,
              ih (TreePath.apart_cons.mp h), put_cons, put_cons, Toml.entries, Toml.entries,
              insertKey_insertKey, insertKey_insertKey]
          · rw [if_neg hkey, if_neg (Ne.symm hkey), put_cons, put_cons, Toml.entries, Toml.entries,
              insertKey_comm hkey]

/-- An empty table has nothing below it. -/
theorem follow_empty {place : List Label} (h : place ≠ []) :
    TreePath.follow Toml.child (some (.table [])) place = none := by
  cases place with
  | nil => exact absurd rfl h
  | cons label place =>
      have hchild : TreePath.step Toml.child (some (.table [])) label = none := by
        cases label <;> rfl
      rw [TreePath.follow, hchild, TreePath.follow_none]

theorem admits_empty (place : List String) : (Toml.table []).Admits place := by
  cases place with
  | nil => trivial
  | cons key place => exact ⟨⟨[], rfl⟩, fun _ hnone => nomatch hnone⟩

/-- A table admits what the node under the key admits; a missing node is as good
    as an empty table. -/
theorem admits_cons_iff {entries : List (String × Toml)} {key : String} {place : List String} :
    (Toml.table entries).Admits (key :: place) ↔
      ((entries.lookup key).getD (.table [])).Admits place := by
  rw [Toml.Admits, Toml.entries]
  cases hlookup : entries.lookup key with
  | none => exact iff_of_true ⟨⟨_, rfl⟩, nofun⟩ (admits_empty place)
  | some node =>
      constructor
      · exact fun h => h.2 node rfl
      · exact fun h => ⟨⟨_, rfl⟩, fun node' heq => Option.some.inj heq ▸ h⟩

/-- Nothing else changes in a document that admits the place. -/
theorem put_sameOff {place : List String} (value : Toml) {document : Toml}
    (h : document.Admits place) :
    SameOff [keys place] document (document.put place value) := by
  induction place generalizing document with
  | nil => exact TreePath.SameOff.root _ _
  | cons key place ih =>
      obtain ⟨⟨entries, rfl⟩, hnode⟩ := h
      refine sameOff_insertKey ?_
      rw [Toml.entries] at hnode ⊢
      cases hlookup : entries.lookup key with
      | some node => exact ih (hnode node hlookup)
      | none =>
          -- the missing table is as good as an empty one
          intro q hq
          have hne : q ≠ [] := by
            rintro rfl
            exact TreePath.not_apart_nil _ (hq _ List.mem_cons_self)
          rw [TreePath.follow_none]
          exact (ih (admits_empty place) q hq).trans (follow_empty hne)

/-- What is admitted after a value was set: the same places. -/
theorem admits_put_iff {p q : List String} (hapart : p = q ∨ TreePath.Apart p q) (value : Toml)
    {document : Toml} (hq : document.Admits q) :
    (document.put q value).Admits p ↔ document.Admits p := by
  induction p generalizing q document with
  | nil => exact iff_of_true trivial trivial
  | cons key p ih =>
      cases q with
      | nil =>
          obtain heq | hapart := hapart
          · exact nomatch heq
          · exact absurd hapart (TreePath.not_apart_nil _)
      | cons key' q =>
          obtain ⟨htable, hnode⟩ := hq
          rw [Toml.Admits, Toml.Admits, entries_put_lookup]
          refine and_congr (iff_of_true ⟨_, rfl⟩ htable) ?_
          by_cases hkey : key = key'
          · subst hkey
            have hbelow : p = q ∨ TreePath.Apart p q := by
              obtain heq | hapart := hapart
              · exact .inl (List.cons.inj heq).2
              · exact .inr (TreePath.apart_cons.mp hapart)
            rw [if_pos rfl]
            cases hlookup : document.entries.lookup key with
            | none =>
                have hput : ((Toml.table []).put q value).Admits p :=
                  (ih hbelow (admits_empty q)).mpr (admits_empty p)
                exact iff_of_true (fun node h => Option.some.inj h ▸ hput) nofun
            | some node =>
                have hput := ih hbelow (hnode node hlookup)
                simpa using hput
          · rw [if_neg hkey]

/-! ## The functions of the source -/

/-- `Value::as_str`. -/
def jsonStr : Value → Option String
  | .string s => some s
  | _ => none

/-- `Value::as_bool`. -/
def jsonBool : Value → Option Bool
  | .bool b => some b
  | _ => none

/-- The entries of a document with an empty table under a key that was
    missing. -/
def withKey (document : Toml) (key detail : String) :
    Except ManagedError (List (String × Toml)) :=
  match document with
  | .table entries =>
      if (entries.lookup key).isSome then .ok entries else .ok (insertKey key (.table []) entries)
  | _ => .error (.invalidProductSurfaceValue key detail)

/-- `ensure_table`, and what the caller inserts into the table. -/
def ensureTable (document : Toml) (key name : String) (value : Toml) : Except ManagedError Toml :=
  match withKey document key "document root must be a table" with
  | .error e => .error e
  | .ok entries =>
      match entries.lookup key with
      | some (.table table) =>
          .ok (.table (insertKey key (.table (insertKey name value table)) entries))
      | _ => .error (.invalidProductSurfaceValue key ("`" ++ key ++ "` must be a table"))

/-- `ensure_nested_table`, key after key, and what the caller inserts into the
    last table. -/
def ensureNestedTable : Toml → List String → String → Toml → Except ManagedError Toml
  | _, [], _, _ => .error (.invalidProductSurfaceValue "" "empty product surface path")
  | current, key :: path, name, value =>
      match withKey current key "document path must be tables" with
      | .error e => .error e
      | .ok entries =>
          match entries.lookup key with
          | none => .error (.invalidProductSurfaceValue key "missing nested table")
          | some (.table table) =>
              if path = [] then
                .ok (.table (insertKey key (.table (insertKey name value table)) entries))
              else
                match ensureNestedTable (.table table) path name value with
                | .error e => .error e
                | .ok next => .ok (.table (insertKey key next entries))
          | some _ =>
              .error (.invalidProductSurfaceValue key
                (if path = [] then "nested path must end at a table"
                else "nested path must be tables"))

/-- `apply_product_surface_field`. -/
def applyProductSurfaceField (document : Toml) (field : String) (value : Value) :
    Except ManagedError Toml :=
  match field with
  | "instance_id" | "distribution_mode" | "auth_token_key" => .error (.productSurfaceReadOnly field)
  | "profile" =>
      match jsonStr value with
      | none => .error (.invalidProductSurfaceValue field "expected string")
      | some text => ensureTable document "service" "profile" (.string text)
  | "console_enabled" =>
      match jsonBool value with
      | none => .error (.invalidProductSurfaceValue field "expected bool")
      | some flag => ensureNestedTable document ["web", "console"] "enabled" (.boolean flag)
  | "console_listen" =>
      match jsonStr value with
      | none => .error (.invalidProductSurfaceValue field "expected string")
      | some text => ensureNestedTable document ["web", "console"] "listen" (.string text)
  | "include_config" =>
      match jsonBool value with
      | none => .error (.invalidProductSurfaceValue field "expected bool")
      | some flag => ensureNestedTable document ["web", "console"] "include_config" (.boolean flag)
  | _ => .error (.unknownProductSurfaceField field)

/-- The loop over the fields of a patch. -/
def patchDocument : List (String × Value) → Toml → Except ManagedError Toml
  | [], document => .ok document
  | (field, value) :: fields, document =>
      match applyProductSurfaceField document field value with
      | .error e => .error e
      | .ok document => patchDocument fields document

/-- How a patch ends. -/
structure Patched where
  result : Except ManagedError Unit
  disk : SecretDisk

/-- `ConfiguredPluginStore::patch_product_surface`; the fields are a
    `BTreeMap`. -/
def patchProductSurface (format : TomlFormat) (io : ManagedIo) (path : PathBuf) (disk : SecretDisk)
    (fields : List (String × Value)) : Patched :=
  match readDocument format io path disk with
  | .error e => ⟨.error e, disk⟩
  | .ok document =>
      match patchDocument fields document with
      | .error e => ⟨.error e, disk⟩
      | .ok document =>
          match format.print document with
          | .error detail => ⟨.error (.write (.writeManagedFile path detail)), disk⟩
          | .ok content =>
              match atomicWrite io path content disk with
              | (.error e, disk) => ⟨.error (.write e), disk⟩
              | (.ok (), disk) => ⟨.ok (), disk⟩

/-! ## Fields that can be set -/

/-- A writable field. -/
inductive SurfaceField where
  | profile
  | consoleEnabled
  | consoleListen
  | includeConfig
  deriving DecidableEq, Repr

namespace SurfaceField

/-- Its name in a patch. -/
def name : SurfaceField → String
  | profile => "profile"
  | consoleEnabled => "console_enabled"
  | consoleListen => "console_listen"
  | includeConfig => "include_config"

/-- Where it stands in the document. -/
def place : SurfaceField → List String
  | profile => ["service", "profile"]
  | consoleEnabled => ["web", "console", "enabled"]
  | consoleListen => ["web", "console", "listen"]
  | includeConfig => ["web", "console", "include_config"]

/-- The tables it needs. -/
def tables : SurfaceField → List (List String)
  | profile => [["service"]]
  | consoleEnabled | consoleListen | includeConfig => [["web"], ["web", "console"]]

/-- The value for the document, if it has the type of the field. -/
def accepts : SurfaceField → Value → Option Toml
  | profile, value | consoleListen, value => (jsonStr value).map .string
  | consoleEnabled, value | includeConfig, value => (jsonBool value).map .boolean

end SurfaceField

/-- `service`, `web` and `web.console` are tables or missing, as far as the
    field needs them. -/
def TablesOpen (document : Toml) (target : SurfaceField) : Prop :=
  ∀ table ∈ target.tables, ∀ node, document.at (keys table) = some node →
    ∃ entries, node = .table entries

/-- A given field is writable, of the right type, and has its tables. -/
def Settable (document : Toml) (field : String × Value) (target : SurfaceField) (item : Toml) :
    Prop :=
  target.name = field.1 ∧ target.accepts field.2 = some item ∧ TablesOpen document target

/-! ## The functions set values -/

/-- The entry is there now, and setting it is setting it in the document. -/
theorem withKey_eq (entries : List (String × Toml)) (key detail : String) :
    ∃ entries', withKey (.table entries) key detail = .ok entries' ∧
      entries'.lookup key = some ((entries.lookup key).getD (.table [])) ∧
      ∀ node, insertKey key node entries' = insertKey key node entries := by
  rw [withKey]
  cases hlookup : entries.lookup key with
  | some node => exact ⟨entries, if_pos rfl, hlookup, fun _ => rfl⟩
  | none =>
      refine ⟨insertKey key (.table []) entries, if_neg nofun, ?_, fun _ => insertKey_insertKey ..⟩
      rw [lookup_insertKey, if_pos rfl]
      rfl

/-- A table in the way of nothing. -/
theorem admits_table (table : List (String × Toml)) (name : String) :
    (Toml.table table).Admits [name] :=
  admits_cons_iff.mpr trivial

theorem not_admits_of_no_table {node : Toml} (path : List String) {name : String}
    (h : ∀ entries, node ≠ .table entries) : ¬ node.Admits (path ++ [name]) := by
  cases path with
  | nil => exact fun hadmits => hadmits.1.elim fun entries heq => h entries heq
  | cons key path => exact fun hadmits => hadmits.1.elim fun entries heq => h entries heq

/-- **A NESTED TABLE** is found or made exactly if the document admits it. -/
theorem ensureNestedTable_cases (document : Toml) {path : List String} (hpath : path ≠ [])
    (name : String) (value : Toml) :
    (document.Admits (path ++ [name]) ∧
      ensureNestedTable document path name value = .ok (document.put (path ++ [name]) value)) ∨
    (¬ document.Admits (path ++ [name]) ∧
      ∃ e, ensureNestedTable document path name value = .error e) := by
  induction path generalizing document with
  | nil => exact absurd rfl hpath
  | cons key path ih =>
      by_cases htable : ∃ entries, document = .table entries
      · obtain ⟨entries, rfl⟩ := htable
        obtain ⟨entries', hwith, hlookup, hinsert⟩ :=
          withKey_eq entries key "document path must be tables"
        rw [List.cons_append, admits_cons_iff, put_cons, Toml.entries, ensureNestedTable, hwith]
        dsimp only
        rw [hlookup]
        generalize (entries.lookup key).getD (.table []) = node
        cases node with
        | table table =>
            dsimp only
            by_cases hlast : path = []
            · subst hlast
              rw [if_pos rfl, hinsert]
              exact .inl ⟨admits_table table name, rfl⟩
            · rw [if_neg hlast]
              obtain ⟨hadmits, hnext⟩ | ⟨hnot, e, hnext⟩ := ih (.table table) hlast
              · rw [hnext]
                dsimp only
                rw [hinsert]
                exact .inl ⟨hadmits, rfl⟩
              · rw [hnext]
                exact .inr ⟨hnot, e, rfl⟩
        | string _ | integer _ | float _ | boolean _ | datetime _ | array _ =>
            exact .inr ⟨not_admits_of_no_table path nofun, _, rfl⟩
      · refine .inr ⟨fun h => htable h.1, ?_⟩
        rw [ensureNestedTable]
        cases document with
        | table entries => exact absurd ⟨entries, rfl⟩ htable
        | string _ | integer _ | float _ | boolean _ | datetime _ | array _ => exact ⟨_, rfl⟩

theorem ensureTable_cases (entries : List (String × Toml)) (key name : String) (value : Toml) :
    ((Toml.table entries).Admits [key, name] ∧
      ensureTable (.table entries) key name value
        = .ok ((Toml.table entries).put [key, name] value)) ∨
    (¬ (Toml.table entries).Admits [key, name] ∧
      ∃ e, ensureTable (.table entries) key name value = .error e) := by
  obtain ⟨entries', hwith, hlookup, hinsert⟩ :=
    withKey_eq entries key "document root must be a table"
  rw [admits_cons_iff, put_cons, Toml.entries, ensureTable, hwith]
  dsimp only
  rw [hlookup]
  generalize (entries.lookup key).getD (.table []) = node
  cases node with
  | table table =>
      dsimp only
      rw [hinsert]
      exact .inl ⟨admits_table table name, rfl⟩
  | string _ | integer _ | float _ | boolean _ | datetime _ | array _ =>
      exact .inr ⟨not_admits_of_no_table [] nofun, _, rfl⟩

/-- A place below one table, -/
theorem admits_two_iff {entries : List (String × Toml)} {key name : String} :
    (Toml.table entries).Admits [key, name] ↔
      ∀ node, (Toml.table entries).at (keys [key]) = some node → ∃ table, node = .table table := by
  constructor
  · exact fun h node hnode => (h.2 node hnode).1
  · intro h
    refine ⟨⟨entries, rfl⟩, fun node hnode => ?_⟩
    obtain ⟨table, rfl⟩ := h node hnode
    exact admits_table table name

/-- and below two. -/
theorem admits_three_iff {entries : List (String × Toml)} {key key' name : String} :
    (Toml.table entries).Admits [key, key', name] ↔
      (∀ node, (Toml.table entries).at (keys [key]) = some node → ∃ table, node = .table table) ∧
      ∀ node, (Toml.table entries).at (keys [key, key']) = some node →
        ∃ table, node = .table table := by
  constructor
  · intro h
    refine ⟨fun node hnode => (h.2 node hnode).1, fun node hnode => ?_⟩
    obtain ⟨_, child, heq, hchild, hat⟩ := at_key_iff.mp hnode
    obtain rfl := Toml.table.inj heq
    obtain ⟨⟨table, rfl⟩, hbelow⟩ := h.2 child hchild
    exact (hbelow node hat).1
  · rintro ⟨houter, hinner⟩
    refine ⟨⟨entries, rfl⟩, fun child hchild => ?_⟩
    obtain ⟨table, rfl⟩ := houter child hchild
    refine ⟨⟨table, rfl⟩, fun node hnode => ?_⟩
    obtain ⟨table', rfl⟩ := hinner node (at_key_iff.mpr ⟨entries, _, rfl, hchild, hnode⟩)
    exact admits_table table' name

/-- The tables of a field are open exactly if the document admits its place. -/
theorem tablesOpen_iff (entries : List (String × Toml)) (target : SurfaceField) :
    TablesOpen (.table entries) target ↔ (Toml.table entries).Admits target.place := by
  cases target with
  | profile =>
      rw [TablesOpen, SurfaceField.tables, List.forall_mem_singleton]; exact admits_two_iff.symm
  | consoleEnabled | consoleListen | includeConfig =>
      rw [TablesOpen, SurfaceField.tables, List.forall_mem_cons, List.forall_mem_singleton]
      exact admits_three_iff.symm

/-- Places of different fields are apart. -/
theorem places_apart {target target' : SurfaceField} (h : target ≠ target') :
    TreePath.Apart target.place target'.place := by
  cases target <;> cases target' <;> first
    | exact absurd rfl h
    | (constructor <;> decide)

theorem table_put (entries : List (String × Toml)) (target : SurfaceField) (item : Toml) :
    ∃ entries', (Toml.table entries).put target.place item = .table entries' := by
  cases target <;> exact ⟨_, rfl⟩

/-- Setting one field leaves open what was open for another. -/
theorem tablesOpen_put (entries : List (String × Toml)) (target target' : SurfaceField)
    (item : Toml) (h : TablesOpen (.table entries) target') :
    TablesOpen ((Toml.table entries).put target'.place item) target ↔
      TablesOpen (.table entries) target := by
  obtain ⟨entries', hput⟩ := table_put entries target' item
  have hapart : target.place = target'.place ∨ TreePath.Apart target.place target'.place := by
    by_cases heq : target = target'
    · exact .inl (congrArg SurfaceField.place heq)
    · exact .inr (places_apart heq)
  rw [hput, tablesOpen_iff, tablesOpen_iff, ← hput]
  exact admits_put_iff hapart item ((tablesOpen_iff entries target').mp h)

theorem SurfaceField.name_injective {target target' : SurfaceField}
    (h : target.name = target'.name) : target = target' := by
  cases target <;> cases target' <;> first
    | rfl
    | exact absurd h (by decide)

/-- A name of no writable field. -/
theorem refused_of_name {document : Toml} {field : String} {value : Value}
    (h : ∀ target : SurfaceField, target.name ≠ field) (target : SurfaceField) (item : Toml) :
    ¬ Settable document (field, value) target item :=
  fun hset => h target hset.1

/-- A value that the field does not take. -/
theorem refused_of_type {document : Toml} {field : String × Value} {target : SurfaceField}
    (hname : target.name = field.1) (haccepts : target.accepts field.2 = none)
    (target' : SurfaceField) (item : Toml) : ¬ Settable document field target' item := by
  rintro ⟨hname', haccepts', -⟩
  obtain rfl := SurfaceField.name_injective (hname'.trans hname.symm)
  exact nomatch haccepts.symm.trans haccepts'

/-- A field is set if its value has the type of the field and the document admits
    its place. -/
theorem typed_field_cases {entries : List (String × Toml)} {field : String × Value}
    {target : SurfaceField} (hname : target.name = field.1) {α : Type} {typed : Option α}
    {wrap : α → Toml} (haccepts : target.accepts field.2 = typed.map wrap)
    {result : Except ManagedError Toml} (hnone : typed = none → ∃ e, result = .error e)
    (hsome : ∀ a, typed = some a →
      ((Toml.table entries).Admits target.place ∧
        result = .ok ((Toml.table entries).put target.place (wrap a))) ∨
      (¬ (Toml.table entries).Admits target.place ∧ ∃ e, result = .error e)) :
    (∃ target item, Settable (.table entries) field target item ∧
      result = .ok ((Toml.table entries).put target.place item)) ∨
    ((∀ target item, ¬ Settable (.table entries) field target item) ∧
      ∃ e, result = .error e) := by
  cases typed with
  | none => exact .inr ⟨refused_of_type hname haccepts, hnone rfl⟩
  | some a =>
      rw [← tablesOpen_iff] at hsome
      obtain ⟨hopen, hok⟩ | ⟨hclosed, herror⟩ := hsome a rfl
      · exact .inl ⟨target, wrap a, ⟨hname, haccepts, hopen⟩, hok⟩
      · refine .inr ⟨fun target' item' hset => ?_, herror⟩
        obtain rfl := SurfaceField.name_injective (hset.1.trans hname.symm)
        exact hclosed hset.2.2

/-- **ONE FIELD** is set if it can be. -/
theorem applyProductSurfaceField_cases (entries : List (String × Toml)) (field : String)
    (value : Value) :
    (∃ target item, Settable (.table entries) (field, value) target item ∧
      applyProductSurfaceField (.table entries) field value
        = .ok ((Toml.table entries).put target.place item)) ∨
    ((∀ target item, ¬ Settable (.table entries) (field, value) target item) ∧
      ∃ e, applyProductSurfaceField (.table entries) field value = .error e) := by
  have hconsole : ∀ name item, _ := fun name item =>
    ensureNestedTable_cases (.table entries) (List.cons_ne_nil "web" ["console"]) name item
  have hprofile : SurfaceField.profile.name = "profile" := rfl
  have henabled : SurfaceField.consoleEnabled.name = "console_enabled" := rfl
  have hlisten : SurfaceField.consoleListen.name = "console_listen" := rfl
  have hinclude : SurfaceField.includeConfig.name = "include_config" := rfl
  unfold applyProductSurfaceField
  split
  case h_1 | h_2 | h_3 =>
    refine .inr ⟨refused_of_name fun target => ?_, _, rfl⟩
    cases target <;> decide
  case h_4 =>
    refine typed_field_cases hprofile rfl (fun hnone => ?_) fun text hsome => ?_
    · rw [hnone]
      exact ⟨_, rfl⟩
    · rw [hsome]
      exact ensureTable_cases entries "service" "profile" (.string text)
  case h_5 =>
    refine typed_field_cases henabled rfl (fun hnone => ?_) fun flag hsome => ?_
    · rw [hnone]
      exact ⟨_, rfl⟩
    · rw [hsome]
      exact hconsole "enabled" (.boolean flag)
  case h_6 =>
    refine typed_field_cases hlisten rfl (fun hnone => ?_) fun text hsome => ?_
    · rw [hnone]
      exact ⟨_, rfl⟩
    · rw [hsome]
      exact hconsole "listen" (.string text)
  case h_7 =>
    refine typed_field_cases hinclude rfl (fun hnone => ?_) fun flag hsome => ?_
    · rw [hnone]
      exact ⟨_, rfl⟩
    · rw [hsome]
      exact hconsole "include_config" (.boolean flag)
  case h_8 =>
    rename_i hother₁ hother₂ hother₃ hother₄
    refine .inr ⟨refused_of_name fun target hname => ?_, _, rfl⟩
    cases target with
    | profile => exact hother₁ hname.symm
    | consoleEnabled => exact hother₂ hname.symm
    | consoleListen => exact hother₃ hname.symm
    | includeConfig => exact hother₄ hname.symm

/-! ## A patch -/

/-- The document after the fields have been set one after the other. -/
def applyEdits (edits : List (SurfaceField × Toml)) (document : Toml) : Toml :=
  edits.foldl (fun document edit => document.put edit.1.place edit.2) document

/-- Every field can be set. -/
def SettableAll (document : Toml) (fields : List (String × Value))
    (edits : List (SurfaceField × Toml)) : Prop :=
  List.Forall₂ (fun field edit => Settable document field edit.1 edit.2) fields edits

/-- **A PATCH** sets all fields or fails at one that cannot be set. -/
theorem patchDocument_cases (fields : List (String × Value)) (entries : List (String × Toml)) :
    (∃ edits, SettableAll (.table entries) fields edits ∧
      patchDocument fields (.table entries) = .ok (applyEdits edits (.table entries))) ∨
    ((∃ field ∈ fields, ∀ target item, ¬ Settable (.table entries) field target item) ∧
      ∃ e, patchDocument fields (.table entries) = .error e) := by
  induction fields generalizing entries with
  | nil => exact .inl ⟨[], .nil, rfl⟩
  | cons field fields ih =>
      obtain ⟨name, value⟩ := field
      rw [patchDocument]
      obtain ⟨target, item, hset, happly⟩ | ⟨hrefused, e, happly⟩ :=
        applyProductSurfaceField_cases entries name value
      · obtain ⟨entries', hput⟩ := table_put entries target item
        have hsame : ∀ field target' item',
            Settable (.table entries') field target' item' ↔
              Settable (.table entries) field target' item' := by
          intro field target' item'
          rw [Settable, Settable, ← hput, tablesOpen_put entries target' target item hset.2.2]
        rw [happly]
        dsimp only
        rw [hput]
        obtain ⟨edits, hedits, hpatch⟩ | ⟨⟨field, hmem, hrefused⟩, e, hpatch⟩ := ih entries'
        · refine .inl ⟨(target, item) :: edits, .cons hset ?_, ?_⟩
          · exact hedits.imp fun field edit h => (hsame field edit.1 edit.2).mp h
          · rw [hpatch, applyEdits, applyEdits, List.foldl_cons, hput]
        · refine .inr ⟨⟨field, List.mem_cons_of_mem _ hmem, fun target' item' h => ?_⟩, e, hpatch⟩
          exact hrefused target' item' ((hsame field target' item').mpr h)
      · rw [happly]
        exact .inr ⟨⟨(name, value), List.mem_cons_self, hrefused⟩, e, rfl⟩

/-! ## Edits as updates -/

/-- An edit of another field can be made first. -/
theorem applyEdits_put_comm {edits : List (SurfaceField × Toml)} {target : SurfaceField}
    (h : ∀ edit ∈ edits, edit.1 ≠ target) (item document : Toml) :
    applyEdits edits (document.put target.place item)
      = (applyEdits edits document).put target.place item := by
  induction edits generalizing document with
  | nil => rfl
  | cons edit edits ih =>
      obtain ⟨hhere, hrest⟩ := List.forall_mem_cons.mp h
      rw [applyEdits, applyEdits, List.foldl_cons, List.foldl_cons, ← applyEdits, ← applyEdits,
        put_comm (places_apart hhere)]
      exact ih hrest _

/-- After the edits each of them is in force. -/
theorem applyEdits_put {edits : List (SurfaceField × Toml)} (hnodup : (edits.map Prod.fst).Nodup)
    {edit : SurfaceField × Toml} (hmem : edit ∈ edits) (document : Toml) :
    (applyEdits edits document).put edit.1.place edit.2 = applyEdits edits document := by
  induction edits generalizing document with
  | nil => exact nomatch hmem
  | cons first edits ih =>
      obtain ⟨hfresh, hrest⟩ := List.nodup_cons.mp hnodup
      rw [applyEdits, List.foldl_cons, ← applyEdits]
      obtain rfl | hmem := List.mem_cons.mp hmem
      · have hother : ∀ other ∈ edits, other.1 ≠ edit.1 :=
          fun other hother heq => hfresh (heq ▸ List.mem_map_of_mem hother)
        rw [applyEdits_put_comm hother, put_put]
      · exact ih hrest hmem _

/-- The same edits again change nothing. -/
theorem applyEdits_idem {edits : List (SurfaceField × Toml)} (hnodup : (edits.map Prod.fst).Nodup)
    (document : Toml) :
    applyEdits edits (applyEdits edits document) = applyEdits edits document := by
  have hfix : ∀ some : List (SurfaceField × Toml), (∀ edit ∈ some, edit ∈ edits) →
      applyEdits some (applyEdits edits document) = applyEdits edits document := by
    intro some hsub
    induction some with
    | nil => rfl
    | cons edit some ih =>
        obtain ⟨hhere, hrest⟩ := List.forall_mem_cons.mp hsub
        rw [applyEdits, List.foldl_cons, ← applyEdits, applyEdits_put hnodup hhere]
        exact ih hrest
  exact hfix edits fun _ h => h

/-- Edits of different fields commute. -/
theorem applyEdits_comm {edits edits' : List (SurfaceField × Toml)}
    (h : ∀ edit ∈ edits, ∀ edit' ∈ edits', edit.1 ≠ edit'.1) (document : Toml) :
    applyEdits edits' (applyEdits edits document) =
      applyEdits edits (applyEdits edits' document) := by
  induction edits' generalizing document with
  | nil => rfl
  | cons edit' edits' ih =>
      have hhere : ∀ edit ∈ edits, edit.1 ≠ edit'.1 := fun edit hmem =>
        h edit hmem edit' List.mem_cons_self
      have hrest : ∀ edit ∈ edits, ∀ other ∈ edits', edit.1 ≠ other.1 :=
        fun edit hmem other hother =>
        h edit hmem other (List.mem_cons_of_mem _ hother)
      have hcons : ∀ d, applyEdits (edit' :: edits') d
          = applyEdits edits' (d.put edit'.1.place edit'.2) := fun _ => rfl
      rw [hcons, hcons, ← applyEdits_put_comm hhere]
      exact ih hrest _

/-- The document of admissible edits is a table, and the tables of every field
    are as open as before. -/
theorem applyEdits_table {edits : List (SurfaceField × Toml)} {entries : List (String × Toml)}
    (h : ∀ edit ∈ edits, TablesOpen (.table entries) edit.1) :
    ∃ entries', applyEdits edits (.table entries) = .table entries' ∧
      (∀ target, TablesOpen (.table entries') target ↔ TablesOpen (.table entries) target) ∧
      SameOff (edits.map fun edit => keys edit.1.place) (.table entries) (.table entries') := by
  induction edits generalizing entries with
  | nil => exact ⟨entries, rfl, fun _ => Iff.rfl, TreePath.SameOff.refl _ _⟩
  | cons edit edits ih =>
      obtain ⟨hhere, hrest⟩ := List.forall_mem_cons.mp h
      obtain ⟨entries₁, hput⟩ := table_put entries edit.1 edit.2
      have hopen :
        ∀ target, TablesOpen (.table entries₁) target ↔ TablesOpen (.table entries) target :=
        fun target => hput ▸ tablesOpen_put entries target edit.1 edit.2 hhere
      obtain ⟨entries', happly, hopen', hoff⟩ :=
        ih fun other hmem => (hopen other.1).mpr (hrest other hmem)
      have hfirst : SameOff [keys edit.1.place] (.table entries) (.table entries₁) :=
        hput ▸ put_sameOff edit.2 ((tablesOpen_iff entries edit.1).mp hhere)
      refine ⟨entries', ?_, fun target => (hopen' target).trans (hopen target), ?_⟩
      · rw [applyEdits, List.foldl_cons, hput]
        exact happly
      · exact hfirst.trans hoff

/-! ## The whole call -/

/-- The file holds the document. -/
def Holds (format : TomlFormat) (disk : SecretDisk) (document : Toml) : Prop :=
  ∃ content, disk.file = .file content ∧ format.parse content = .ok document

/-- What a patch writes is printed and read back. -/
def TomlFormat.CoversPatch (format : TomlFormat) (fields : List (String × Value))
    (document : Toml) : Prop :=
  ∀ document', patchDocument fields document = .ok document' → format.Faithful document'

/-- The places of the given fields. -/
def surfacePlaces (fields : List (String × Value)) : List (List Label) :=
  ([.profile, .consoleEnabled, .consoleListen, .includeConfig].filter
    fun target : SurfaceField => target.name ∈ fields.map Prod.fst).map fun target =>
      keys target.place

/-- What `patch_product_surface` does to the file with `document`. -/
structure SurfaceLaw (format : TomlFormat) (path : PathBuf) (disk : SecretDisk) (document : Toml)
    (fields : List (String × Value)) : Prop where
  /-- it fails exactly for a field that is read-only, unknown or of another
      type, or whose tables are not tables -/
  fails_iff : ∀ io : ManagedIo, io.Succeeds →
    ((∃ e, (patchProductSurface format io path disk fields).result = .error e) ↔
      ∃ field ∈ fields, ∀ target item, ¬ Settable document field target item)
  unchanged : ∀ (io : ManagedIo) (e : ManagedError),
    (patchProductSurface format io path disk fields).result = .error e →
    (patchProductSurface format io path disk fields).disk.file = disk.file
  /-- otherwise the given fields have the given values, and nothing else has
      changed -/
  exact : ∀ io : ManagedIo, (patchProductSurface format io path disk fields).result = .ok () →
    ∃ document', Holds format (patchProductSurface format io path disk fields).disk document' ∧
      (∀ field ∈ fields, ∃ (target : SurfaceField) (item : Toml), target.name = field.1 ∧
        target.accepts field.2 = some item ∧ document'.at (keys target.place) = some item) ∧
      SameOff (surfacePlaces fields) document document'
  again : ∀ io io' : ManagedIo, io'.Succeeds →
    (patchProductSurface format io path disk fields).result = .ok () →
    (patchProductSurface format io' path
      (patchProductSurface format io path disk fields).disk fields).result = .ok () ∧
    (patchProductSurface format io' path
      (patchProductSurface format io path disk fields).disk fields).disk.file
        = (patchProductSurface format io path disk fields).disk.file
  /-- another patch can be made before exactly when it can be made after -/
  enables : ∀ fields' : List (String × Value), format.CoversPatch fields' document →
    (∀ document', patchDocument fields document = .ok document' →
      format.CoversPatch fields' document') →
    ∀ io io' : ManagedIo, io'.Succeeds →
    (patchProductSurface format io path disk fields).result = .ok () →
    ((patchProductSurface format io' path disk fields').result = .ok () ↔
      (patchProductSurface format io' path
        (patchProductSurface format io path disk fields).disk fields').result = .ok ())
  commutes : ∀ fields' : List (String × Value),
    (∀ field ∈ fields, ∀ field' ∈ fields', field.1 ≠ field'.1) →
    format.CoversPatch fields' document →
    (∀ document', patchDocument fields document = .ok document' →
      format.CoversPatch fields' document') →
    ∀ io io' : ManagedIo, io.Succeeds → io'.Succeeds →
    (patchProductSurface format io path disk fields).result = .ok () →
    (patchProductSurface format io' path disk fields').result = .ok () →
    ∃ text,
      patchProductSurface format io' path
        (patchProductSurface format io path disk fields).disk fields' =
          ⟨.ok (), ⟨.file text, .absent⟩⟩ ∧
      patchProductSurface format io path
        (patchProductSurface format io' path disk fields').disk fields =
          ⟨.ok (), ⟨.file text, .absent⟩⟩

/-- A call leaves the file alone or writes the patched document. -/
theorem patchProductSurface_cases (format : TomlFormat) (io : ManagedIo) (path : PathBuf)
    (disk : SecretDisk) (fields : List (String × Value)) :
    (∃ e, (patchProductSurface format io path disk fields).result = .error e ∧
      (patchProductSurface format io path disk fields).disk.file = disk.file) ∨
    ∃ document document' text,
      Holds format disk document ∧ patchDocument fields document = .ok document' ∧
      format.print document' = .ok text ∧
      patchProductSurface format io path disk fields = ⟨.ok (), ⟨.file text, .absent⟩⟩ := by
  rw [patchProductSurface]
  cases hread : readDocument format io path disk with
  | error e => exact .inl ⟨e, rfl, rfl⟩
  | ok document =>
      dsimp only
      cases hpatch : patchDocument fields document with
      | error e => exact .inl ⟨e, rfl, rfl⟩
      | ok document' =>
          dsimp only
          cases hprint : format.print document' with
          | error detail => exact .inl ⟨_, rfl, rfl⟩
          | ok text =>
              dsimp only
              obtain ⟨e, disk', hwrite, hsame⟩ | hwrite := atomicWrite_cases io path text disk
              · rw [hwrite]
                exact .inl ⟨_, rfl, hsame⟩
              · rw [hwrite]
                exact .inr ⟨document, document', text, readDocument_ok hread, hpatch, hprint, rfl⟩

/-- A file that holds one document holds no other. -/
theorem Holds.unique {format : TomlFormat} {disk : SecretDisk} {document document' : Toml}
    (h : Holds format disk document) (h' : Holds format disk document') : document = document' := by
  obtain ⟨content, hfile, hparse⟩ := h
  obtain ⟨content', hfile', hparse'⟩ := h'
  obtain rfl : content = content' := Node.file.inj (hfile.symm.trans hfile')
  exact Except.ok.inj (hparse.symm.trans hparse')

/-- A call on a file with a document that can be patched. -/
theorem patchProductSurface_eq {format : TomlFormat} {io : ManagedIo} (hio : io.Succeeds)
    (path : PathBuf) {disk : SecretDisk} {fields : List (String × Value)}
    {document document' : Toml}
    {text : String} (hholds : Holds format disk document)
    (hpatch : patchDocument fields document = .ok document')
    (hprint : format.print document' = .ok text) :
    patchProductSurface format io path disk fields = ⟨.ok (), ⟨.file text, .absent⟩⟩ := by
  obtain ⟨content, hfile, hparse⟩ := hholds
  rw [patchProductSurface, readDocument_eq hio.readOk hfile hparse]
  dsimp only
  rw [hpatch]
  dsimp only
  rw [hprint]
  dsimp only
  rw [atomicWrite_eq hio]

/-- The fields of a map are different, and so are their targets. -/
theorem SettableAll.nodup {document : Toml} {fields : List (String × Value)}
    {edits : List (SurfaceField × Toml)} (h : SettableAll document fields edits)
    (hfields : Ascending fields) : (edits.map Prod.fst).Nodup := by
  have hnames : edits.map (fun edit => edit.1.name) = fields.map Prod.fst := by
    clear hfields
    induction h with
    | nil => rfl
    | cons hset _ ih => rw [List.map_cons, List.map_cons, hset.1, ih]
  have hnodup : (fields.map Prod.fst).Nodup :=
    List.pairwise_map.mpr (hfields.imp fun hlt => ne_of_lt hlt)
  rw [← hnames] at hnodup
  have hcomp : edits.map (fun edit => edit.1.name)
      = (edits.map Prod.fst).map SurfaceField.name := by
    rw [List.map_map]
    rfl
  rw [hcomp] at hnodup
  exact hnodup.of_map _

/-- Every edit belongs to a given field. -/
theorem SettableAll.mem_edit {document : Toml} {fields : List (String × Value)}
    {edits : List (SurfaceField × Toml)} (h : SettableAll document fields edits)
    {edit : SurfaceField × Toml} (hmem : edit ∈ edits) :
    ∃ field ∈ fields, Settable document field edit.1 edit.2 :=
  ListUpdate.exists_partner h.flip hmem

/-- No field is refused. -/
theorem SettableAll.not_refused {document : Toml} {fields : List (String × Value)}
    {edits : List (SurfaceField × Toml)} (h : SettableAll document fields edits) :
    ¬ ∃ field ∈ fields, ∀ target item, ¬ Settable document field target item := by
  rintro ⟨field, hmem, hrefused⟩
  obtain ⟨edit, -, hset⟩ := ListUpdate.exists_partner h hmem
  exact hrefused edit.1 edit.2 hset

/-- The edits are made at the places of the fields. -/
theorem SettableAll.place_mem {document : Toml} {fields : List (String × Value)}
    {edits : List (SurfaceField × Toml)} (h : SettableAll document fields edits)
    {edit : SurfaceField × Toml} (hmem : edit ∈ edits) :
    keys edit.1.place ∈ surfacePlaces fields := by
  obtain ⟨field, hfield, hset⟩ := h.mem_edit hmem
  refine List.mem_map.mpr ⟨edit.1, List.mem_filter.mpr ⟨?_, ?_⟩, rfl⟩
  · cases edit.1 <;> decide
  · exact decide_eq_true (hset.1 ▸ List.mem_map_of_mem hfield)

/-- Different fields have different targets. -/
theorem SettableAll.targets_ne {document : Toml} {fields fields' : List (String × Value)}
    {edits edits' : List (SurfaceField × Toml)} (h : SettableAll document fields edits)
    (h' : SettableAll document fields' edits')
    (hdisjoint : ∀ field ∈ fields, ∀ field' ∈ fields', field.1 ≠ field'.1) :
    ∀ edit ∈ edits, ∀ edit' ∈ edits', edit.1 ≠ edit'.1 := by
  intro edit hmem edit' hmem' heq
  obtain ⟨field, hfield, hset⟩ := h.mem_edit hmem
  obtain ⟨field', hfield', hset'⟩ := h'.mem_edit hmem'
  exact hdisjoint field hfield field' hfield' (hset.1.symm.trans (heq ▸ hset'.1))

/-- A document that is patched was settable everywhere. -/
theorem patchDocument_ok_inv {fields : List (String × Value)} {entries : List (String × Toml)}
    {document' : Toml} (h : patchDocument fields (.table entries) = .ok document') :
    ∃ edits, SettableAll (.table entries) fields edits ∧
      document' = applyEdits edits (.table entries) := by
  obtain ⟨edits, hedits, hpatch⟩ | ⟨-, e, hpatch⟩ := patchDocument_cases fields entries
  · exact ⟨edits, hedits, Except.ok.inj (h.symm.trans hpatch)⟩
  · exact nomatch h.symm.trans hpatch

/-- A patch of settable fields. -/
theorem SettableAll.patchDocument_eq {fields : List (String × Value)}
    {entries : List (String × Toml)} {edits : List (SurfaceField × Toml)}
    (h : SettableAll (.table entries) fields edits) :
    patchDocument fields (.table entries) = .ok (applyEdits edits (.table entries)) := by
  obtain ⟨edits', hedits, hpatch⟩ | ⟨hrefused, -⟩ := patchDocument_cases fields entries
  · have hsame : edits' = edits := by
      clear hpatch
      induction hedits generalizing edits with
      | nil => cases h; rfl
      | cons hset _ ih =>
          cases h with
          | cons hset' hrest =>
              have htarget := SurfaceField.name_injective (hset.1.trans hset'.1.symm)
              have hitem := hset.2.1
              rw [htarget] at hitem
              rw [ih hrest, Prod.ext htarget (Option.some.inj (hitem.symm.trans hset'.2.1))]
    rw [hpatch, hsame]
  · exact absurd hrefused h.not_refused

/-- The tables of settable fields are open, -/
theorem SettableAll.tablesOpen {document : Toml} {fields : List (String × Value)}
    {edits : List (SurfaceField × Toml)} (h : SettableAll document fields edits) :
    ∀ edit ∈ edits, TablesOpen document edit.1 := by
  intro edit hmem
  obtain ⟨field, -, hset⟩ := h.mem_edit hmem
  exact hset.2.2

/-- and nothing else of the document counts. -/
theorem SettableAll.transfer {document document' : Toml} {fields : List (String × Value)}
    {edits : List (SurfaceField × Toml)} (h : SettableAll document fields edits)
    (hopen : ∀ target, TablesOpen document' target ↔ TablesOpen document target) :
    SettableAll document' fields edits :=
  h.imp fun _ edit hset => ⟨hset.1, hset.2.1, (hopen edit.1).mpr hset.2.2⟩

/-- What a call that succeeds has left. -/
theorem patched_of_ok {format : TomlFormat} {io : ManagedIo} {path : PathBuf} {disk : SecretDisk}
    {entries : List (String × Toml)} {fields : List (String × Value)}
    (hholds : Holds format disk (.table entries))
    (hcovers : format.CoversPatch fields (.table entries))
    (hok : (patchProductSurface format io path disk fields).result = .ok ()) :
    ∃ edits text, SettableAll (.table entries) fields edits ∧
      patchProductSurface format io path disk fields = ⟨.ok (), ⟨.file text, .absent⟩⟩ ∧
      format.print (applyEdits edits (.table entries)) = .ok text ∧
      Holds format ⟨.file text, .absent⟩ (applyEdits edits (.table entries)) := by
  obtain ⟨e, he, -⟩ | ⟨document, document', text, hfound, hpatch, hprint, hcall⟩ :=
    patchProductSurface_cases format io path disk fields
  · exact nomatch he.symm.trans hok
  · obtain rfl := hholds.unique hfound
    obtain ⟨text', hprint', hparse⟩ := hcovers document' hpatch
    obtain rfl : text = text' := Except.ok.inj (hprint.symm.trans hprint')
    obtain ⟨edits, hedits, rfl⟩ := patchDocument_ok_inv hpatch
    exact ⟨edits, text, hedits, hcall, hprint, text, rfl, hparse⟩

theorem sameOff_mono {places places' : List (List Label)} {document document' : Toml}
    (hsub : ∀ place ∈ places, place ∈ places') (h : SameOff places document document') :
    SameOff places' document document' :=
  fun q hq => h q fun place hmem => hq place (hsub place hmem)

/-- **A PRODUCT PATCH IS ATOMIC AND FRAMED.** -/
theorem patch_product_surface_law {format : TomlFormat} (path : PathBuf) {disk : SecretDisk}
    {entries : List (String × Toml)} {fields : List (String × Value)}
    (hholds : Holds format disk (.table entries)) (hfields : Ascending fields)
    (hcovers : format.CoversPatch fields (.table entries)) :
    SurfaceLaw format path disk (.table entries) fields := by
  constructor
  case fails_iff =>
    intro io hio
    obtain ⟨edits, hedits, hpatch⟩ | ⟨hrefused, e, hpatch⟩ := patchDocument_cases fields entries
    · obtain ⟨text, hprint, -⟩ := hcovers _ hpatch
      rw [patchProductSurface_eq hio path hholds hpatch hprint]
      refine iff_of_false ?_ hedits.not_refused
      rintro ⟨e, he⟩
      cases he
    · obtain ⟨content, hfile, hparse⟩ := hholds
      rw [patchProductSurface, readDocument_eq hio.readOk hfile hparse]
      dsimp only
      rw [hpatch]
      exact ⟨fun _ => hrefused, fun _ => ⟨e, rfl⟩⟩
  case unchanged =>
    intro io e he
    obtain ⟨-, -, hsame⟩ | ⟨_, _, _, _, _, _, hcall⟩ :=
      patchProductSurface_cases format io path disk fields
    · exact hsame
    · rw [hcall] at he
      exact nomatch he
  case exact =>
    intro io hok
    obtain ⟨edits, text, hedits, hcall, -, hafter⟩ := patched_of_ok hholds hcovers hok
    have hnodup := hedits.nodup hfields
    obtain ⟨entries', happly, -, hoff⟩ := applyEdits_table hedits.tablesOpen
    rw [hcall]
    refine ⟨_, hafter, ?_, ?_⟩
    · intro field hmem
      obtain ⟨edit, hedit, hset⟩ := ListUpdate.exists_partner hedits hmem
      refine ⟨edit.1, edit.2, hset.1, hset.2.1, ?_⟩
      rw [← applyEdits_put hnodup hedit]
      exact put_at ..
    · rw [happly]
      refine sameOff_mono ?_ hoff
      intro place hmem
      obtain ⟨edit, hedit, rfl⟩ := List.mem_map.mp hmem
      exact hedits.place_mem hedit
  case again =>
    intro io io' hio' hok
    obtain ⟨edits, text, hedits, hcall, hprint, hafter⟩ := patched_of_ok hholds hcovers hok
    obtain ⟨entries', happly, hopen, -⟩ := applyEdits_table hedits.tablesOpen
    have hagain : patchDocument fields (.table entries') = .ok (.table entries') := by
      rw [(hedits.transfer hopen).patchDocument_eq, ← happly,
        applyEdits_idem (hedits.nodup hfields)]
    rw [happly] at hprint hafter
    rw [hcall, patchProductSurface_eq hio' path hafter hagain hprint]
    exact ⟨rfl, rfl⟩
  case enables =>
    intro fields' hcovers₁ hcovers₂ io io' hio' hok
    obtain ⟨edits, text, hedits, hcall, -, hafter⟩ := patched_of_ok hholds hcovers hok
    obtain ⟨entries₁, happly, hopen, -⟩ := applyEdits_table hedits.tablesOpen
    have hfirst := hedits.patchDocument_eq
    rw [happly] at hfirst hafter
    rw [hcall]
    constructor
    · intro hok'
      obtain ⟨edits', -, hedits', -⟩ := patched_of_ok hholds hcovers₁ hok'
      have hthen := (hedits'.transfer hopen).patchDocument_eq
      obtain ⟨text', hprint, -⟩ := hcovers₂ _ hfirst _ hthen
      rw [patchProductSurface_eq hio' path hafter hthen hprint]
    · intro hok'
      obtain ⟨edits', -, hedits', -⟩ := patched_of_ok hafter (hcovers₂ _ hfirst) hok'
      have hdirect := (hedits'.transfer fun target => (hopen target).symm).patchDocument_eq
      obtain ⟨text', hprint, -⟩ := hcovers₁ _ hdirect
      rw [patchProductSurface_eq hio' path hholds hdirect hprint]
  case commutes =>
    intro fields' hdisjoint hcovers₁ hcovers₂ io io' hio hio' hok hok'
    obtain ⟨edits, text, hedits, hcall, -, hafter⟩ := patched_of_ok hholds hcovers hok
    obtain ⟨edits', text', hedits', hcall', -, hafter'⟩ := patched_of_ok hholds hcovers₁ hok'
    obtain ⟨entries₁, happly, hopen, -⟩ := applyEdits_table hedits.tablesOpen
    obtain ⟨entries₂, happly', hopen', -⟩ := applyEdits_table hedits'.tablesOpen
    have htargets : ∀ edit ∈ edits, ∀ edit' ∈ edits', edit.1 ≠ edit'.1 :=
      hedits.targets_ne hedits' hdisjoint
    have hfirst := hedits.patchDocument_eq
    rw [happly] at hfirst hafter
    rw [happly'] at hafter'
    have hthen := (hedits'.transfer hopen).patchDocument_eq
    have hother := (hedits.transfer hopen').patchDocument_eq
    -- both orders end with the same document
    rw [← happly', ← applyEdits_comm htargets, happly, happly'] at hother
    obtain ⟨text₁, hprint, -⟩ := hcovers₂ _ hfirst _ hthen
    refine ⟨text₁, ?_, ?_⟩
    · rw [hcall]
      exact patchProductSurface_eq hio' path hafter hthen hprint
    · rw [hcall']
      exact patchProductSurface_eq hio path hafter' hother hprint

/-- A product file without a console, -/
def plainEntries : List (String × Toml) := [("service", .table [("profile", .string "bot")])]

/-- a patch for it, -/
def consolePatch : List (String × Value) :=
  [("console_enabled", .bool true), ("profile", .string "prod")]

/-- and the file with the console. -/
def consoleDocument : Toml :=
  .table [("service", .table [("profile", .string "prod")]),
    ("web", .table [("console", .table [("enabled", .boolean true)])])]

/-- `toml` on the two files. -/
def consoleFormat : TomlFormat where
  parse text :=
    if text = "[service]\nprofile = \"bot\"\n" then .ok (.table plainEntries)
    else if text = "[service]\nprofile = \"prod\"\n\n[web.console]\nenabled = true\n" then
      .ok consoleDocument
    else .error "expected a table"
  print document :=
    match document with
    | .table [("service", .table [("profile", .string "prod")]),
        ("web", .table [("console", .table [("enabled", .boolean true)])])] =>
        .ok "[service]\nprofile = \"prod\"\n\n[web.console]\nenabled = true\n"
    | _ => .error "unsupported value"

/-- The tables of the console are made. -/
theorem patch_product_surface_law_console :
    SurfaceLaw consoleFormat ⟨true, ["srv", "local.toml"]⟩
      ⟨.file "[service]\nprofile = \"bot\"\n", .absent⟩ (.table plainEntries) consolePatch := by
  have hholds : Holds consoleFormat ⟨.file "[service]\nprofile = \"bot\"\n", .absent⟩
      (.table plainEntries) := by
    refine ⟨_, rfl, ?_⟩
    simp only [consoleFormat, if_true]
  have hfields : Ascending consolePatch := List.pairwise_pair.mpr (by decide)
  refine patch_product_surface_law _ hholds hfields ?_
  intro document' h
  have hpatch : patchDocument consolePatch (.table plainEntries) = .ok consoleDocument := by rfl
  obtain rfl := Except.ok.inj (h.symm.trans hpatch)
  refine ⟨_, rfl, ?_⟩
  have hne : "[service]\nprofile = \"prod\"\n\n[web.console]\nenabled = true\n"
      ≠ "[service]\nprofile = \"bot\"\n" := by
    decide
  simp only [consoleFormat, if_neg hne, if_true]

end ServiceDocument
