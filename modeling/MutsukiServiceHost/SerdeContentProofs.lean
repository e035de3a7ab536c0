import Mathlib.Data.List.Sort
import Mathlib.Data.String.Basic
import MutsukiServiceHost.ListUpdateProofs

/-! # The serde data model

    What a derived `Serialize` hands to a format and a derived `Deserialize`
    takes from one, as a value: null, booleans, numbers, strings, sequences and
    maps with string keys.  `Option` has no form of its own here, so `None` and a
    value that is written as null look the same.  A struct is a map with its
    field names; a reader of one goes through the entries and fills a slot for
    each field.  The last section is the map type with ascending keys that such
    entries are collected into. -/

namespace SerdeContent

/-- A value of the data model; a float is the bits of a double. -/
inductive Content where
  | unit
  | bool (b : Bool)
  | int (n : Int)
  | float (bits : UInt64)
  | str (s : String)
  | seq (items : List Content)
  | map (entries : List (String × Content))

/-- What `serde` calls a value in an error. -/
def Content.kind : Content → String
  | .unit => "unit value"
  | .bool _ => "boolean"
  | .int _ => "integer"
  | .float _ => "floating point number"
  | .str _ => "string"
  | .seq _ => "sequence"
  | .map _ => "map"

/-- The errors of a derived `Deserialize`. -/
inductive DeError where
  | invalidType (found expected : String)
  | invalidLength (length : Nat) (expected : String)
  | duplicateField (field : String)
  | missingField (field : String)
  deriving DecidableEq, Repr

/-- The `Display` text of such an error. -/
def DeError.message : DeError → String
  | .invalidType found expected => "invalid type: " ++ found ++ ", expected " ++ expected
  | .invalidLength length expected =>
      "invalid length " ++ toString length ++ ", expected " ++ expected
  | .duplicateField field => "duplicate field `" ++ field ++ "`"
  | .missingField field => "missing field `" ++ field ++ "`"

/-! ## Formats -/

/-- A format writes a value as bytes and reads one from bytes. -/
structure Format where
  write : Content → Except String (List UInt8)
  read : List UInt8 → Except String Content

/-- The format brings `c` back whenever it writes it. -/
def Format.Faithful (format : Format) (c : Content) : Prop :=
  ∀ bytes, format.write c = .ok bytes → format.read bytes = .ok c

/-- Bytes are read and what they say is deserialised. -/
def Format.decode {α : Type} (format : Format) (deserialize : Content → Except DeError α)
    (bytes : List UInt8) : Except String α :=
  match format.read bytes with
  | .error e => .error e
  | .ok c =>
      match deserialize c with
      | .error e => .error e.message
      | .ok a => .ok a

/-- A written value is decoded as the value itself is deserialised. -/
theorem Format.decode_written {α : Type} {format : Format} {c : Content}
    {deserialize : Content → Except DeError α} {bytes : List UInt8} {a : α}
    (h : format.Faithful c) (hwrite : format.write c = .ok bytes) (hde : deserialize c = .ok a) :
    format.decode deserialize bytes = .ok a := by
  rw [Format.decode, h bytes hwrite]
  dsimp only
  rw [hde]

/-- What is decoded was deserialised from something. -/
theorem Format.decode_ok {α : Type} {format : Format} {deserialize : Content → Except DeError α}
    {bytes : List UInt8} {a : α} (h : format.decode deserialize bytes = .ok a) :
    ∃ c, deserialize c = .ok a := by
  rw [Format.decode] at h
  split at h
  · exact nomatch h
  · rename_i c _
    split at h
    · exact nomatch h
    · rename_i b hde
      exact ⟨c, by rw [hde, Except.ok.inj h]⟩

/-! ## Fields -/

/-- `bool::deserialize`. -/
def asBool : Content → Except DeError Bool
  | .bool b => .ok b
  | c => .error (.invalidType c.kind "a boolean")

/-- `String::deserialize`. -/
def asString : Content → Except DeError String
  | .str s => .ok s
  | c => .error (.invalidType c.kind "a string")

/-- `Option::deserialize`: null is `None`, whatever it was written for. -/
def asOption {α : Type} (deserialize : Content → Except DeError α) :
    Content → Except DeError (Option α)
  | .unit => .ok none
  | c => (deserialize c).map some

theorem asOption_of_ne {α : Type} {deserialize : Content → Except DeError α} {c : Content}
    (h : c ≠ .unit) : asOption deserialize c = (deserialize c).map some := by
  cases c with
  | unit => exact absurd rfl h
  | _ => rfl

/-- A field of a struct under `skip_serializing_if = "Option::is_none"`. -/
def skipNone (field : String) : Option Content → List (String × Content)
  | none => []
  | some c => [(field, c)]

/-- The slot of a field when the field's entry comes. -/
def fill {α : Type} (field : String) (slot : Option α) (value : Except DeError α) :
    Except DeError (Option α) :=
  match slot with
  | some _ => .error (.duplicateField field)
  | none => value.map some

/-- A slot that has been filled holds what its value said. -/
theorem fill_map_ok {α β : Type} {field : String} {slot : Option α} {value : Except DeError α}
    {f : Option α → β} {b : β} (h : (fill field slot value).map f = .ok b) :
    ∃ a, value = .ok a ∧ f (some a) = b := by
  cases slot with
  | some _ => exact nomatch h
  | none =>
      cases value with
      | error e => exact nomatch h
      | ok a => exact ⟨a, rfl, Except.ok.inj h⟩

/-- A required field at the end of the entries. -/
def required {α : Type} (field : String) : Option α → Except DeError α
  | some a => .ok a
  | none => .error (.missingField field)

/-- The next element of a struct that comes as a sequence. -/
def nextElement {α : Type} (index : Nat) (expected : String)
    (deserialize : Content → Except DeError α) : List Content → Except DeError (α × List Content)
  | [] => .error (.invalidLength index expected)
  | c :: items => (deserialize c).map fun a => (a, items)

/-- An element that was there, and what is made of the rest. -/
theorem nextElement_bind_ok {α β : Type} {index : Nat} {expected : String}
    {deserialize : Content → Except DeError α} {items : List Content}
    {f : α × List Content → Except DeError β} {b : β}
    (h : nextElement index expected deserialize items >>= f = .ok b) :
    ∃ c a rest, deserialize c = .ok a ∧ f (a, rest) = .ok b := by
  cases items with
  | nil => exact nomatch h
  | cons c items =>
      rw [nextElement] at h
      cases hc : deserialize c with
      | error e =>
          rw [hc] at h
          exact nomatch h
      | ok a =>
          rw [hc] at h
          exact ⟨c, a, items, hc, h⟩

/-! ## Maps with ascending keys -/

section Keyed

variable {κ β : Type} [LinearOrder κ]

/-- `BTreeMap::insert` on the entries in key order. -/
def insertKey (key : κ) (value : β) : List (κ × β) → List (κ × β)
  | [] => [(key, value)]
  | (k, v) :: entries =>
      if key < k then (key, value) :: (k, v) :: entries
      else if key = k then (key, value) :: entries
      else (k, v) :: insertKey key value entries

/-- The map that entries are inserted into one after the other. -/
def collect (entries : List (κ × β)) : List (κ × β) :=
  entries.foldl (fun map entry => insertKey entry.1 entry.2 map) []

/-- The keys ascend. -/
def Ascending (entries : List (κ × β)) : Prop := entries.Pairwise fun a b => a.1 < b.1

theorem insertKey_last {key : κ} (value : β) {entries : List (κ × β)}
    (h : ∀ e ∈ entries, e.1 < key) : insertKey key value entries = entries ++ [(key, value)] := by
  induction entries with
  | nil => rfl
  | cons e entries ih =>
      obtain ⟨he, hrest⟩ := List.forall_mem_cons.mp h
      rw [insertKey, if_neg (lt_asymm he), if_neg (ne_of_gt he), ih hrest, List.cons_append]

theorem foldl_insertKey {entries : List (κ × β)} (map : List (κ × β))
    (h : Ascending (map ++ entries)) :
    entries.foldl (fun map entry => insertKey entry.1 entry.2 map) map = map ++ entries := by
  induction entries generalizing map with
  | nil => rw [List.foldl_nil, List.append_nil]
  | cons e entries ih =>
      have hlast : ∀ m ∈ map, m.1 < e.1 := fun m hm =>
        (List.pairwise_append.mp h).2.2 m hm e List.mem_cons_self
      have hassoc : map ++ e :: entries = map ++ [e] ++ entries := by simp
      rw [List.foldl_cons, insertKey_last e.2 hlast, hassoc]
      exact ih (map ++ [e]) (hassoc ▸ h)

/-- Entries in key order are collected as they are. -/
theorem collect_of_ascending {entries : List (κ × β)} (h : Ascending entries) :
    collect entries = entries :=
  foldl_insertKey [] h

theorem mem_insertKey {key : κ} {value : β} {entries : List (κ × β)} {e : κ × β}
    (h : e ∈ insertKey key value entries) : e = (key, value) ∨ e ∈ entries := by
  induction entries with
  | nil => exact Or.inl (List.mem_singleton.mp h)
  | cons a entries ih =>
      rw [insertKey] at h
      split at h
      · exact List.mem_cons.mp h
      · split at h
        · obtain h | h := List.mem_cons.mp h
          · exact Or.inl h
          · exact Or.inr (List.mem_cons_of_mem a h)
        · obtain h | h := List.mem_cons.mp h
          · exact Or.inr (h ▸ List.mem_cons_self)
          · exact (ih h).imp_right (List.mem_cons_of_mem a)

theorem insertKey_ascending {key : κ} {value : β} {entries : List (κ × β)}
    (h : Ascending entries) : Ascending (insertKey key value entries) := by
  induction entries with
  | nil => exact List.pairwise_singleton _ _
  | cons a entries ih =>
      obtain ⟨ha, hrest⟩ := List.pairwise_cons.mp h
      rw [insertKey]
      split
      · rename_i hlt
        refine List.pairwise_cons.mpr ⟨?_, h⟩
        intro e he
        obtain rfl | he := List.mem_cons.mp he
        · exact hlt
        · exact lt_trans hlt (ha e he)
      · rename_i hge
        split
        · rename_i heq
          exact List.pairwise_cons.mpr ⟨fun e he => heq ▸ ha e he, hrest⟩
        · rename_i hne
          refine List.pairwise_cons.mpr ⟨?_, ih hrest⟩
          intro e he
          obtain rfl | he := mem_insertKey he
          · exact lt_of_le_of_ne (not_lt.mp hge) (Ne.symm hne)
          · exact ha e he

/-- What is collected is in key order, whatever the order of the entries, -/
theorem collect_ascending (entries : List (κ × β)) : Ascending (collect entries) := by
  have hfold : ∀ map : List (κ × β), Ascending map →
      Ascending (entries.foldl (fun map entry => insertKey entry.1 entry.2 map) map) := by
    induction entries with
    | nil => exact fun map h => h
    | cons e entries ih => exact fun map h => ih _ (insertKey_ascending h)
  exact hfold [] List.Pairwise.nil

/-- and every entry of it was one of them. -/
theorem mem_collect {entries : List (κ × β)} {e : κ × β} (h : e ∈ collect entries) :
    e ∈ entries := by
  have hfold : ∀ map : List (κ × β),
      e ∈ entries.foldl (fun map entry => insertKey entry.1 entry.2 map) map →
        e ∈ map ∨ e ∈ entries := by
    clear h
    induction entries with
    | nil => exact fun map h => Or.inl h
    | cons a entries ih =>
        intro map h
        obtain h | h := ih _ h
        · obtain rfl | h := mem_insertKey h
          · exact Or.inr List.mem_cons_self
          · exact Or.inl h
        · exact Or.inr (List.mem_cons_of_mem a h)
  exact (hfold [] h).resolve_left List.not_mem_nil

/-- What a map gives for a key after an insertion. -/
theorem lookup_insertKey [BEq κ] [LawfulBEq κ] (key : κ) (value : β) (entries : List (κ × β))
    (k : κ) :
    (insertKey key value entries).lookup k = if k = key then some value else entries.lookup k := by
  induction entries with
  | nil => exact ListUpdate.lookup_cons k key value []
  | cons e entries ih =>
      obtain ⟨k', v⟩ := e
      rw [insertKey]
      split
      · exact ListUpdate.lookup_cons k key value _
      · split
        · rename_i heq
          rw [ListUpdate.lookup_cons, ListUpdate.lookup_cons, heq]
          by_cases h : k = k'
          · rw [if_pos h, if_pos h]
          · rw [if_neg h, if_neg h, if_neg h]
        · rename_i hne
          rw [ListUpdate.lookup_cons, ListUpdate.lookup_cons, ih]
          by_cases h : k = key
          · subst h
            simp [hne]
          · simp [h]

/-- Maps in key order with the same entries are the same. -/
theorem ascending_ext {entries entries' : List (κ × β)} (h : Ascending entries)
    (h' : Ascending entries') (hmem : ∀ e, e ∈ entries ↔ e ∈ entries') : entries = entries' := by
  have : Std.Irrefl fun a b : κ × β => a.1 < b.1 := ⟨fun a => lt_irrefl a.1⟩
  have : Std.Antisymm fun a b : κ × β => a.1 < b.1 := ⟨fun a b hab hba => absurd hab (lt_asymm hba)⟩
  exact List.Pairwise.eq_of_mem_iff h h' hmem

/-- A new key keeps all entries. -/
theorem insertKey_perm {key : κ} (value : β) {entries : List (κ × β)}
    (h : key ∉ entries.map Prod.fst) :
    (insertKey key value entries).Perm ((key, value) :: entries) := by
  induction entries with
  | nil => exact .refl _
  | cons e entries ih =>
      obtain ⟨k, v⟩ := e
      rw [List.map_cons, List.mem_cons, not_or] at h
      rw [insertKey]
      split
      · exact .refl _
      · split
        · rename_i heq
          exact absurd heq h.1
        · exact ((ih h.2).cons _).trans (.swap ..)

/-- The last insertion under a key counts. -/
theorem insertKey_insertKey (key : κ) (value value' : β) (entries : List (κ × β)) :
    insertKey key value (insertKey key value' entries) = insertKey key value entries := by
  induction entries with
  | nil => simp [insertKey]
  | cons e entries ih =>
      obtain ⟨k, v⟩ := e
      by_cases hlt : key < k
      · simp [insertKey, hlt]
      · by_cases heq : key = k
        · simp [insertKey, heq]
        · simp [insertKey, hlt, heq, ih]

/-- Insertions under different keys can be made in either order. -/
theorem insertKey_comm {key key' : κ} (hne : key ≠ key') (value value' : β)
    (entries : List (κ × β)) :
    insertKey key value (insertKey key' value' entries)
      = insertKey key' value' (insertKey key value entries) := by
  induction entries with
  | nil =>
      rcases lt_or_gt_of_ne hne with h | h
      · simp [insertKey, h, lt_asymm h, hne.symm]
      · simp [insertKey, h, lt_asymm h, hne]
  | cons e entries ih =>
      obtain ⟨k, v⟩ := e
      simp only [insertKey]
      grind [insertKey]

end Keyed

end SerdeContent
