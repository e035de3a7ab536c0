import Mathlib.Data.List.Basic
import MutsukiServiceHost.ServiceControlProofs

/-! # Raw credentials in a plugin's configuration

    `raw_credential_field` walks the configuration of a plugin and reports the
    first member that looks like a credential, by the path to it.  Names that end
    in `_key` or `_ref` are taken for references to the Host's secret backend and
    are let through.

    * `rawCredentialField_none_iff`, `rawCredentialField_some` — what the walk
      finds, on every tree.
    * `screening_complete_iff` — `api_key` is on the list of credentials and ends
      in `_key`, so the walk reports what the list says exactly on the trees where
      an `api_key` does not stand alone. -/

namespace ServiceConfigured

open ServiceControl

/-! ## The walk -/

/-- `key.to_ascii_lowercase().replace('-', "_")`. -/
def normalizeField (key : String) : String :=
  String.ofList ((key.toList.map Char.toLower).map fun c => if c = '-' then '_' else c)

/-- `str::ends_with`. -/
def endsWith (text suffix : String) : Bool := suffix.toList.isSuffixOf text.toList

/-- The names of credentials. -/
def credentialNames : List String :=
  ["secret", "client_secret", "token", "access_token", "password", "api_key"]

/-- `is_credential` of a normalized name. -/
def isCredential (normalized : String) : Bool := credentialNames.contains normalized

/-- `is_reference` of a normalized name. -/
def isReference (normalized : String) : Bool :=
  endsWith normalized "_key" || endsWith normalized "_ref"

/-- `Value::is_null`. -/
def isNull : Value → Bool
  | .null => true
  | _ => false

/-- The text of a member's path. -/
def fieldText (path key : String) : String := if path = "" then key else path ++ "." ++ key

/-- The text of an element's path. -/
def indexText (path : String) (index : Nat) : String := path ++ "[" ++ toString index ++ "]"

mutual

/-- `raw_credential_field`. -/
def rawCredentialField : Value → String → Option String
  | .object members, path => rawCredentialMembers members path
  | .array items, path => rawCredentialItems items 0 path
  | .null, _ => none
  | .bool _, _ => none
  | .number _, _ => none
  | .string _, _ => none

/-- `find_map` over the members of an object. -/
def rawCredentialMembers : List (String × Value) → String → Option String
  | [], _ => none
  | (key, value) :: members, path =>
      let field := fieldText path key
      let normalized := normalizeField key
      let found :=
        if isCredential normalized && !isReference normalized && !isNull value then some field
        else rawCredentialField value field
      match found with
      | some field => some field
      | none => rawCredentialMembers members path

/-- `find_map` over the elements of an array, the first of which is number
    `index`. -/
def rawCredentialItems : List Value → Nat → String → Option String
  | [], _, _ => none
  | value :: items, index, path =>
      match rawCredentialField value (indexText path index) with
      | some field => some field
      | none => rawCredentialItems items (index + 1) path

end

/-! ## Members of a tree -/

/-- A step of an access path: into a member of an object or an element of an
    array. -/
inductive PathStep where
  | field (key : String)
  | index (i : Nat)
  deriving DecidableEq, Repr

/-- Some object inside a value has the member `key` with value `w`; the path ends
    with that member. -/
inductive Member : Value → List PathStep → String → Value → Prop where
  | here {members : List (String × Value)} {key : String} {w : Value} :
      (key, w) ∈ members → Member (.object members) [.field key] key w
  | inObject {members : List (String × Value)} {name key : String} {v w : Value}
      {path : List PathStep} :
      (name, v) ∈ members → Member v path key w →
        Member (.object members) (.field name :: path) key w
  | inArray {items : List Value} {i : Nat} {key : String} {v w : Value} {path : List PathStep} :
      items[i]? = some v → Member v path key w → Member (.array items) (.index i :: path) key w

/-- A path as text, after the text of what leads to it: member names set off by
    dots, indices in brackets. -/
def renderAfter (text : String) : List PathStep → String
  | [] => text
  | .field key :: path => renderAfter (fieldText text key) path
  | .index i :: path => renderAfter (indexText text i) path

/-- The dotted and indexed text of an access path. -/
def render (path : List PathStep) : String := renderAfter "" path

/-- A member with one of the names of credentials, in any spelling, that is not
    null. -/
def RawCredential (key : String) (w : Value) : Prop :=
  normalizeField key ∈ credentialNames ∧ isNull w = false

/-- What the walk reports. -/
def Reported (key : String) (w : Value) : Prop :=
  isCredential (normalizeField key) = true ∧ isReference (normalizeField key) = false ∧
    isNull w = false

/-- `api_key` is the one credential that passes for a reference. -/
theorem reported_iff {key : String} {w : Value} :
    Reported key w ↔ RawCredential key w ∧ normalizeField key ≠ "api_key" := by
  have hnames : ∀ name ∈ credentialNames, isReference name = false ↔ name ≠ "api_key" := by
    decide
  have hmem : isCredential (normalizeField key) = true ↔ normalizeField key ∈ credentialNames :=
    List.contains_iff_mem
  constructor
  · rintro ⟨hcred, href, hnull⟩
    have hname := hmem.mp hcred
    exact ⟨⟨hname, hnull⟩, (hnames _ hname).mp href⟩
  · rintro ⟨⟨hname, hnull⟩, hne⟩
    exact ⟨hmem.mpr hname, (hnames _ hname).mpr hne, hnull⟩

theorem Member.cons {members : List (String × Value)} {path : List PathStep} {key : String}
    {w : Value} (m : String × Value) (h : Member (.object members) path key w) :
    Member (.object (m :: members)) path key w := by
  cases h with
  | here hmem => exact .here (List.mem_cons_of_mem m hmem)
  | inObject hmem h => exact .inObject (List.mem_cons_of_mem m hmem) h

/-! ## What the walk finds -/

/-- The check of one member in a form to reason with. -/
theorem rawCredentialMembers_cons (key : String) (value : Value) (members : List (String × Value))
    (text : String) :
    rawCredentialMembers ((key, value) :: members) text
      = ((if isCredential (normalizeField key) && !isReference (normalizeField key)
            && !isNull value then some (fieldText text key)
          else rawCredentialField value (fieldText text key)).or
        (rawCredentialMembers members text)) := by
  rw [rawCredentialMembers]
  split <;> split <;> simp_all

theorem rawCredentialItems_cons (value : Value) (items : List Value) (i : Nat) (text : String) :
    rawCredentialItems (value :: items) i text
      = (rawCredentialField value (indexText text i)).or
        (rawCredentialItems items (i + 1) text) := by
  rw [rawCredentialItems]
  split <;> simp_all

mutual

/-- A reported text is the text of a path to a member that is reported. -/
theorem rawCredentialField_some : ∀ (v : Value) {text found : String},
    rawCredentialField v text = some found →
      ∃ path key w, Member v path key w ∧ Reported key w ∧ found = renderAfter text path
  | .object members, text, found, h => by
      rw [rawCredentialField] at h
      exact rawCredentialMembers_some members h
  | .array items, text, found, h => by
      rw [rawCredentialField] at h
      obtain ⟨i, v, path, key, w, hitem, hmem, hrep, hfound⟩ := rawCredentialItems_some items h
      rw [Nat.zero_add] at hfound
      exact ⟨.index i :: path, key, w, .inArray hitem hmem, hrep, hfound⟩
  | .null, _, _, h => by rw [rawCredentialField] at h; exact nomatch h
  | .bool _, _, _, h => by rw [rawCredentialField] at h; exact nomatch h
  | .number _, _, _, h => by rw [rawCredentialField] at h; exact nomatch h
  | .string _, _, _, h => by rw [rawCredentialField] at h; exact nomatch h

theorem rawCredentialMembers_some : ∀ (members : List (String × Value)) {text found : String},
    rawCredentialMembers members text = some found →
      ∃ path key w, Member (.object members) path key w ∧ Reported key w ∧
        found = renderAfter text path
  | [], _, _, h => by rw [rawCredentialMembers] at h; exact nomatch h
  | (key, value) :: members, text, found, h => by
      rw [rawCredentialMembers_cons] at h
      rcases Option.or_eq_some_iff.mp h with hhere | ⟨-, hrest⟩
      · split at hhere
        · rename_i hcheck
          cases hhere
          simp only [Bool.and_eq_true, Bool.not_eq_true'] at hcheck
          obtain ⟨⟨hcred, href⟩, hnull⟩ := hcheck
          exact ⟨[.field key], key, value, .here List.mem_cons_self, ⟨hcred, href, hnull⟩, rfl⟩
        · obtain ⟨path, key', w, hmem, hrep, hfound⟩ := rawCredentialField_some value hhere
          exact ⟨.field key :: path, key', w, .inObject List.mem_cons_self hmem, hrep, hfound⟩
      · obtain ⟨path, key', w, hmem, hrep, hfound⟩ := rawCredentialMembers_some members hrest
        exact ⟨path, key', w, hmem.cons _, hrep, hfound⟩

theorem rawCredentialItems_some : ∀ (items : List Value) {i : Nat} {text found : String},
    rawCredentialItems items i text = some found →
      ∃ j v path key w, items[j]? = some v ∧ Member v path key w ∧ Reported key w ∧
        found = renderAfter (indexText text (i + j)) path
  | [], _, _, _, h => by rw [rawCredentialItems] at h; exact nomatch h
  | value :: items, i, text, found, h => by
      rw [rawCredentialItems_cons] at h
      rcases Option.or_eq_some_iff.mp h with hhere | ⟨-, hrest⟩
      · obtain ⟨path, key, w, hmem, hrep, hfound⟩ := rawCredentialField_some value hhere
        exact ⟨0, value, path, key, w, rfl, hmem, hrep, hfound⟩
      · obtain ⟨j, v, path, key, w, hitem, hmem, hrep, hfound⟩ :=
          rawCredentialItems_some items hrest
        refine ⟨j + 1, v, path, key, w, hitem, hmem, hrep, ?_⟩
        rw [hfound, Nat.add_right_comm, Nat.add_assoc]

end

mutual

/-- Where nothing is reported, no member is. -/
theorem rawCredentialField_none : ∀ (v : Value) {text : String},
    rawCredentialField v text = none →
      ∀ {path key w}, Member v path key w → ¬ Reported key w
  | .object members, text, h, _, _, _, hmem => by
      rw [rawCredentialField] at h
      exact rawCredentialMembers_none members h hmem
  | .array items, text, h, _, _, _, hmem => by
      rw [rawCredentialField] at h
      cases hmem with
      | inArray hitem hmem => exact rawCredentialItems_none items h hitem hmem

theorem rawCredentialMembers_none : ∀ (members : List (String × Value)) {text : String},
    rawCredentialMembers members text = none →
      ∀ {path key w}, Member (.object members) path key w → ¬ Reported key w
  | [], _, _, _, _, _, hmem => by
      cases hmem with
      | here h => exact nomatch h
      | inObject h _ => exact nomatch h
  | (name, value) :: members, text, h, _, _, _, hmem => by
      rw [rawCredentialMembers_cons] at h
      obtain ⟨hhere, hrest⟩ := Option.or_eq_none_iff.mp h
      split at hhere
      · exact nomatch hhere
      · rename_i hcheck
        cases hmem with
        | here h =>
            rcases List.mem_cons.mp h with heq | hmem
            · cases heq
              rintro ⟨hcred, href, hnull⟩
              exact hcheck (by simp [hcred, href, hnull])
            · exact rawCredentialMembers_none members hrest (.here hmem)
        | inObject h hmem =>
            rcases List.mem_cons.mp h with heq | hrest'
            · cases heq
              exact rawCredentialField_none value hhere hmem
            · exact rawCredentialMembers_none members hrest (.inObject hrest' hmem)

theorem rawCredentialItems_none : ∀ (items : List Value) {i : Nat} {text : String},
    rawCredentialItems items i text = none →
      ∀ {j : Nat} {v path key w}, items[j]? = some v → Member v path key w → ¬ Reported key w
  | [], _, _, _, _, _, _, _, _, hitem, _ => nomatch hitem
  | value :: items, i, text, h, j, _, _, _, _, hitem, hmem => by
      rw [rawCredentialItems_cons] at h
      obtain ⟨hhere, hrest⟩ := Option.or_eq_none_iff.mp h
      cases j with
      | zero =>
          cases hitem
          exact rawCredentialField_none value hhere hmem
      | succ j => exact rawCredentialItems_none items hrest hitem hmem

end

/-- **NOTHING IS REPORTED** exactly where no member is to be. -/
theorem rawCredentialField_none_iff {v : Value} {text : String} :
    rawCredentialField v text = none ↔ ∀ path key w, Member v path key w → ¬ Reported key w := by
  constructor
  · intro h path key w hmem
    exact rawCredentialField_none v h hmem
  · intro h
    cases hfound : rawCredentialField v text with
    | none => rfl
    | some found =>
        obtain ⟨path, key, w, hmem, hrep, -⟩ := rawCredentialField_some v hfound
        exact absurd hrep (h path key w hmem)

/-! ## Completeness of the screening -/

/-- The screening of `v` does what its list of names says. -/
structure ScreeningComplete (v : Value) : Prop where
  none_iff : rawCredentialField v "" = none ↔ ∀ path key w, Member v path key w →
    ¬ RawCredential key w
  some_path : ∀ found, rawCredentialField v "" = some found →
    ∃ path key w, Member v path key w ∧ RawCredential key w ∧ found = render path

/-- **THE SCREENING IS COMPLETE** exactly on the trees in which an `api_key` is
    accompanied by another raw credential. -/
theorem screening_complete_iff (v : Value) :
    ScreeningComplete v ↔
      ((∃ path key w, Member v path key w ∧ RawCredential key w ∧ normalizeField key = "api_key") →
        ∃ path key w, Member v path key w ∧ RawCredential key w ∧
          normalizeField key ≠ "api_key") := by
  constructor
  · rintro hcomplete ⟨path, key, w, hmem, hraw, -⟩
    cases hfound : rawCredentialField v "" with
    | none => exact absurd hraw (hcomplete.none_iff.mp hfound path key w hmem)
    | some found =>
        obtain ⟨path, key, w, hmem, hrep, -⟩ := rawCredentialField_some v hfound
        exact ⟨path, key, w, hmem, reported_iff.mp hrep⟩
  · intro hother
    refine ⟨?_, ?_⟩
    · rw [rawCredentialField_none_iff]
      constructor
      · intro hnone path key w hmem hraw
        by_cases hapi : normalizeField key = "api_key"
        · obtain ⟨path', key', w', hmem', hrep'⟩ := hother ⟨path, key, w, hmem, hraw, hapi⟩
          exact hnone path' key' w' hmem' (reported_iff.mpr hrep')
        · exact hnone path key w hmem (reported_iff.mpr ⟨hraw, hapi⟩)
      · intro hnone path key w hmem hrep
        exact hnone path key w hmem (reported_iff.mp hrep).1
    · intro found hfound
      obtain ⟨path, key, w, hmem, hrep, hrender⟩ := rawCredentialField_some v hfound
      exact ⟨path, key, w, hmem, (reported_iff.mp hrep).1, hrender⟩

/-- A configuration with a raw `api_key` passes the screening. -/
theorem api_key_passes :
    rawCredentialField (.object [("api_key", .string "sk-1")]) "" = none ∧
      Member (.object [("api_key", .string "sk-1")]) [.field "api_key"] "api_key" (.string "sk-1") ∧
      RawCredential "api_key" (.string "sk-1") :=
  ⟨by decide, .here List.mem_cons_self, by decide, rfl⟩

end ServiceConfigured
