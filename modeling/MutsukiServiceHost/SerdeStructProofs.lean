import MutsukiServiceHost.SerdeContentProofs

/-! # Structs and enums in the serde data model

    What a derived reader of a struct accepts, said field by field: the entries
    may come in any order and may hold fields the struct does not know, but each
    known field comes once at most (`Fills`).  A unit variant is read from its
    name, and an internally tagged enum takes its tag out of the entries and
    leaves the others to the variant (`readTagged`). -/

namespace SerdeContent

/-- The errors of a reader of structs and enums. -/
inductive ReadError where
  | data (e : DeError)
  | unknownVariant (found : String) (expected : List String)
  | invalidValue (found expected : String)
  deriving DecidableEq, Repr

/-- What `serde` says of the names it would have taken. -/
def oneOf : List String → String
  | [] => "there are no variants"
  | [name] => "`" ++ name ++ "`"
  | [name, other] => "`" ++ name ++ "` or `" ++ other ++ "`"
  | names => "one of " ++ ", ".intercalate (names.map fun name => "`" ++ name ++ "`")

/-- The `Display` text of such an error. -/
def ReadError.message : ReadError → String
  | .data e => e.message
  | .unknownVariant found expected =>
      "unknown variant `" ++ found ++ "`, expected " ++ oneOf expected
  | .invalidValue found expected => "invalid value: " ++ found ++ ", expected " ++ expected

/-- Bytes are read and what they say is deserialised. -/
def Format.read? {α : Type} (format : Format) (deserialize : Content → Except ReadError α)
    (bytes : List UInt8) : Except String α :=
  match format.read bytes with
  | .error e => .error e
  | .ok c =>
      match deserialize c with
      | .error e => .error e.message
      | .ok a => .ok a

/-- The reader brings `c` back whenever the writer writes it. -/
def Carries (writer reader : Format) (c : Content) : Prop :=
  ∀ bytes, writer.write c = .ok bytes → reader.read bytes = .ok c

/-- A carried value is read as the value itself is deserialised. -/
theorem Format.read?_carried {α : Type} {writer reader : Format} {c : Content}
    {deserialize : Content → Except ReadError α} {bytes : List UInt8} {a : α}
    (h : Carries writer reader c) (hwrite : writer.write c = .ok bytes)
    (hde : deserialize c = .ok a) : reader.read? deserialize bytes = .ok a := by
  rw [Format.read?, h bytes hwrite]
  dsimp only
  rw [hde]

/-- The same for a reader whose errors are the plain ones. -/
theorem Format.decode_carried {α : Type} {writer reader : Format} {c : Content}
    {deserialize : Content → Except DeError α} {bytes : List UInt8} {a : α}
    (h : Carries writer reader c) (hwrite : writer.write c = .ok bytes)
    (hde : deserialize c = .ok a) : reader.decode deserialize bytes = .ok a := by
  rw [Format.decode, h bytes hwrite]
  dsimp only
  rw [hde]

/-! ## Fields -/

section Fields

variable {α : Type} {field : String} {read : Content → Except ReadError α}
  {entries : List (String × Content)} {slot slot' : Option α}

/-- The slot of a field when the field's entry comes. -/
def enter (field : String) (slot : Option α) (value : Except ReadError α) :
    Except ReadError (Option α) :=
  match slot with
  | some _ => .error (.data (.duplicateField field))
  | none => value.map some

/-- A required field at the end of the entries. -/
def need (field : String) : Option α → Except ReadError α
  | some a => .ok a
  | none => .error (.data (.missingField field))

theorem enter_ok_iff {value : Except ReadError α} {slot' : Option α} :
    enter field slot value = .ok slot' ↔ slot = none ∧ ∃ a, value = .ok a ∧ slot' = some a := by
  cases slot with
  | some a => exact iff_of_false nofun fun h => nomatch h.1
  | none =>
      cases value with
      | error e => exact iff_of_false nofun fun ⟨_, _, h, _⟩ => nomatch h
      | ok a =>
          constructor
          · intro h
            exact ⟨rfl, a, rfl, (Except.ok.inj h).symm⟩
          · rintro ⟨-, b, hb, rfl⟩
            rw [Except.ok.inj hb]
            rfl

/-- The entries fill the slot of a field that is read by `read`. -/
def Fills (field : String) (read : Content → Except ReadError α) :
    Option α → List (String × Content) → Option α → Prop
  | slot, [], slot' => slot' = slot
  | slot, (key, c) :: entries, slot' =>
      if key = field then
        slot = none ∧ ∃ a, read c = .ok a ∧ Fills field read (some a) entries slot'
      else Fills field read slot entries slot'

/-- No entry is the field's. -/
def Absent (field : String) (entries : List (String × Content)) : Prop :=
  ∀ e ∈ entries, e.1 ≠ field

/-- One entry is the field's. -/
def Sole (field : String) (entries : List (String × Content)) (c : Content) : Prop :=
  entries.filter (fun e => e.1 = field) = [(field, c)]

theorem absent_iff_filter : Absent field entries ↔ entries.filter (fun e => e.1 = field) = [] := by
  simp [Absent, List.filter_eq_nil_iff]

/-- A filled slot stays as it is, and nothing more may come. -/
theorem fills_some_iff {a : α} :
    Fills field read (some a) entries slot' ↔ slot' = some a ∧ Absent field entries := by
  induction entries with
  | nil => simp [Fills, Absent]
  | cons e entries ih =>
      obtain ⟨key, c⟩ := e
      rw [Fills]
      by_cases hkey : key = field
      · rw [if_pos hkey]
        refine iff_of_false (fun h => nomatch h.1) fun h => ?_
        exact h.2 _ List.mem_cons_self hkey
      · rw [if_neg hkey, ih]
        simp [Absent, hkey]

/-- **AN EMPTY SLOT** is filled from the one entry of its field, or stays empty
    without one. -/
theorem fills_none_iff : Fills field read none entries slot' ↔
    (slot' = none ∧ Absent field entries) ∨
      ∃ c a, Sole field entries c ∧ read c = .ok a ∧ slot' = some a := by
  induction entries with
  | nil => simp [Fills, Absent, Sole]
  | cons e entries ih =>
      obtain ⟨key, c⟩ := e
      rw [Fills]
      by_cases hkey : key = field
      · subst hkey
        rw [if_pos rfl]
        have hfilter : ((key, c) :: entries).filter (fun e => e.1 = key)
            = (key, c) :: entries.filter (fun e => e.1 = key) :=
          List.filter_cons_of_pos (by simp)
        constructor
        · rintro ⟨-, a, hread, hfills⟩
          obtain ⟨rfl, habsent⟩ := fills_some_iff.mp hfills
          refine .inr ⟨c, a, ?_, hread, rfl⟩
          rw [Sole, hfilter, absent_iff_filter.mp habsent]
        · rintro (⟨-, habsent⟩ | ⟨c', a, hsole, hread, rfl⟩)
          · exact absurd rfl (habsent _ List.mem_cons_self)
          · rw [Sole, hfilter] at hsole
            obtain ⟨hhead, hnone⟩ := List.cons.inj hsole
            obtain rfl : c = c' := congrArg Prod.snd hhead
            exact ⟨rfl, a, hread, fills_some_iff.mpr ⟨rfl, absent_iff_filter.mpr hnone⟩⟩
      · rw [if_neg hkey, ih]
        have hfilter : ((key, c) :: entries).filter (fun e => e.1 = field)
            = entries.filter (fun e => e.1 = field) := List.filter_cons_of_neg (by simpa using hkey)
        simp only [absent_iff_filter, Sole, hfilter]

/-- A required field: its one entry. -/
theorem fills_need_iff {a : α} :
    (∃ slot', Fills field read none entries slot' ∧ need field slot' = .ok a) ↔
      ∃ c, Sole field entries c ∧ read c = .ok a := by
  constructor
  · rintro ⟨slot', hfills, hneed⟩
    obtain ⟨rfl, -⟩ | ⟨c, b, hsole, hread, rfl⟩ := fills_none_iff.mp hfills
    · exact nomatch hneed
    · rw [← Except.ok.inj hneed]
      exact ⟨c, hsole, hread⟩
  · rintro ⟨c, hsole, hread⟩
    exact ⟨some a, fills_none_iff.mpr (.inr ⟨c, a, hsole, hread, rfl⟩), rfl⟩

/-- A field with a default: its one entry, or the default without one. -/
theorem fills_default_iff {a missing : α} :
    (∃ slot', Fills field read none entries slot' ∧ slot'.getD missing = a) ↔
      (Absent field entries ∧ a = missing) ∨ ∃ c, Sole field entries c ∧ read c = .ok a := by
  constructor
  · rintro ⟨slot', hfills, rfl⟩
    obtain ⟨rfl, habsent⟩ | ⟨c, b, hsole, hread, rfl⟩ := fills_none_iff.mp hfills
    · exact .inl ⟨habsent, rfl⟩
    · exact .inr ⟨c, hsole, hread⟩
  · rintro (⟨habsent, rfl⟩ | ⟨c, hsole, hread⟩)
    · exact ⟨none, fills_none_iff.mpr (.inl ⟨rfl, habsent⟩), rfl⟩
    · exact ⟨some a, fills_none_iff.mpr (.inr ⟨c, a, hsole, hread, rfl⟩), rfl⟩

/-- The order of the entries does not matter to a field. -/
theorem Sole.perm {entries' : List (String × Content)} {c : Content} (h : Sole field entries c)
    (hperm : entries.Perm entries') : Sole field entries' c := by
  have hfilter := hperm.filter fun e => e.1 = field
  rw [Sole] at h
  rw [h] at hfilter
  exact (List.singleton_perm.mp hfilter).symm

theorem Absent.perm {entries' : List (String × Content)} (h : Absent field entries)
    (hperm : entries.Perm entries') : Absent field entries' := by
  intro e he
  exact h e (hperm.mem_iff.mpr he)

/-- An entry of another field. -/
theorem sole_cons_iff {key : String} {value c : Content} (h : key ≠ field) :
    Sole field ((key, value) :: entries) c ↔ Sole field entries c := by
  rw [Sole, Sole, List.filter_cons_of_neg (by simpa using h)]

theorem absent_cons_iff {key : String} {value : Content} (h : key ≠ field) :
    Absent field ((key, value) :: entries) ↔ Absent field entries := by
  simp [Absent, h]

/-- One entry, as far as one field is concerned; the entries of other fields are
    passed over. -/
def visitField (field : String) (read : Content → Except ReadError α) (slot : Option α)
    (entry : String × Content) : Except ReadError (Option α) :=
  if entry.1 = field then enter field slot (read entry.2) else .ok slot

/-- The entries, as far as one field is concerned. -/
theorem foldlM_visitField_ok_iff :
    entries.foldlM (visitField field read) slot = .ok slot'
      ↔ Fills field read slot entries slot' := by
  induction entries generalizing slot with
  | nil =>
      rw [List.foldlM_nil, Fills]
      show Except.ok slot = .ok slot' ↔ _
      rw [Except.ok.injEq, eq_comm]
  | cons e entries ih =>
      obtain ⟨key, c⟩ := e
      rw [List.foldlM_cons, visitField, Fills]
      by_cases hkey : key = field
      · rw [if_pos hkey, if_pos hkey]
        constructor
        · intro h
          cases hslot : enter field slot (read c) with
          | error e =>
              rw [hslot] at h
              exact nomatch h
          | ok slot₁ =>
              rw [hslot] at h
              obtain ⟨hnone, a, hread, rfl⟩ := enter_ok_iff.mp hslot
              exact ⟨hnone, a, hread, ih.mp h⟩
        · rintro ⟨hnone, a, hread, hfills⟩
          rw [enter_ok_iff.mpr ⟨hnone, a, hread, rfl⟩]
          exact ih.mpr hfills
      · rw [if_neg hkey, if_neg hkey]
        exact ih

end Fields

/-- `Deserialize` of a `String`. -/
def readString : Content → Except ReadError String
  | .str s => .ok s
  | c => .error (.data (.invalidType c.kind "a string"))

theorem readString_ok_iff {c : Content} {s : String} : readString c = .ok s ↔ c = .str s := by
  cases c with
  | str s' => simp [readString]
  | unit => simp [readString]
  | bool b => simp [readString]
  | int n => simp [readString]
  | float bits => simp [readString]
  | seq items => simp [readString]
  | map entries => simp [readString]

/-- Two visitors side by side. -/
def visitBoth {σ τ ε β : Type} (v : σ → β → Except ε σ) (w : τ → β → Except ε τ) (slots : σ × τ)
    (entry : β) : Except ε (σ × τ) := do
  let left ← v slots.1 entry
  let right ← w slots.2 entry
  return (left, right)

theorem visitBoth_ok_iff {σ τ ε β : Type} {v : σ → β → Except ε σ} {w : τ → β → Except ε τ}
    {slots slots' : σ × τ} {entry : β} :
    visitBoth v w slots entry = .ok slots' ↔
      v slots.1 entry = .ok slots'.1 ∧ w slots.2 entry = .ok slots'.2 := by
  rw [visitBoth]
  cases v slots.1 entry with
  | error e => exact iff_of_false nofun fun h => nomatch h.1
  | ok left =>
      cases w slots.2 entry with
      | error e => exact iff_of_false nofun fun h => nomatch h.2
      | ok right =>
          show Except.ok (left, right) = .ok slots' ↔ _
          rw [Except.ok.injEq, Except.ok.injEq, Except.ok.injEq, Prod.ext_iff]

/-- **FIELDS ARE READ APART**: two visitors accept the entries together exactly
    when each accepts them. -/
theorem foldlM_visitBoth_ok_iff {σ τ ε β : Type} {v : σ → β → Except ε σ}
    {w : τ → β → Except ε τ} {entries : List β} {slots slots' : σ × τ} :
    entries.foldlM (visitBoth v w) slots = .ok slots' ↔
      entries.foldlM v slots.1 = .ok slots'.1 ∧ entries.foldlM w slots.2 = .ok slots'.2 := by
  induction entries generalizing slots with
  | nil =>
      simp only [List.foldlM_nil]
      show Except.ok slots = .ok slots' ↔ Except.ok slots.1 = .ok slots'.1 ∧
        Except.ok slots.2 = .ok slots'.2
      rw [Except.ok.injEq, Except.ok.injEq, Except.ok.injEq, Prod.ext_iff]
  | cons entry entries ih =>
      simp only [List.foldlM_cons]
      cases hboth : visitBoth v w slots entry with
      | ok slots₁ =>
          obtain ⟨hleft, hright⟩ := visitBoth_ok_iff.mp hboth
          rw [hleft, hright]
          exact ih
      | error e =>
          refine iff_of_false nofun fun ⟨hleft, hright⟩ => ?_
          cases hv : v slots.1 entry with
          | error e =>
              rw [hv] at hleft
              exact nomatch hleft
          | ok left =>
              cases hw : w slots.2 entry with
              | error e =>
                  rw [hw] at hright
                  exact nomatch hright
              | ok right =>
                  have hok : visitBoth v w slots entry = .ok (left, right) :=
                    visitBoth_ok_iff.mpr ⟨hv, hw⟩
                  rw [hok] at hboth
                  exact nomatch hboth

/-! ## Sequences -/

/-- The next element of a struct that comes as a sequence. -/
def takeElement {α : Type} (index : Nat) (expected : String)
    (read : Content → Except ReadError α) : List Content → Except ReadError (α × List Content)
  | [] => .error (.data (.invalidLength index expected))
  | c :: items => (read c).map fun a => (a, items)

/-- The next element of a field that may be missing at the end. -/
def takeDefault {α : Type} (missing : α) (read : Content → Except ReadError α) :
    List Content → Except ReadError (α × List Content)
  | [] => .ok (missing, [])
  | c :: items => (read c).map fun a => (a, items)

/-- Nothing may follow the last field. -/
def takeEnd {α : Type} (length : Nat) (a : α) (items : List Content) : Except ReadError α :=
  if items.isEmpty then .ok a
  else .error (.data (.invalidLength (items.length + length) "fewer elements in sequence"))

theorem takeElement_bind_ok {α β : Type} {index : Nat} {expected : String}
    {read : Content → Except ReadError α} {items : List Content}
    {f : α × List Content → Except ReadError β} {b : β}
    (h : (takeElement index expected read items >>= f) = .ok b) :
    ∃ c a rest, items = c :: rest ∧ read c = .ok a ∧ f (a, rest) = .ok b := by
  cases items with
  | nil => cases h
  | cons c rest =>
      rw [takeElement] at h
      cases hread : read c with
      | error e =>
          rw [hread] at h
          cases h
      | ok a =>
          rw [hread] at h
          exact ⟨c, a, rest, rfl, hread, h⟩

theorem takeDefault_bind_ok {α β : Type} {missing : α} {read : Content → Except ReadError α}
    {items : List Content} {f : α × List Content → Except ReadError β} {b : β}
    (h : (takeDefault missing read items >>= f) = .ok b) :
    (items = [] ∧ f (missing, []) = .ok b) ∨
      ∃ c a rest, items = c :: rest ∧ read c = .ok a ∧ f (a, rest) = .ok b := by
  cases items with
  | nil => exact .inl ⟨rfl, h⟩
  | cons c rest =>
      rw [takeDefault] at h
      cases hread : read c with
      | error e =>
          rw [hread] at h
          cases h
      | ok a =>
          rw [hread] at h
          exact .inr ⟨c, a, rest, rfl, hread, h⟩

theorem takeEnd_ok_iff {α : Type} {length : Nat} {a b : α} {items : List Content} :
    takeEnd length a items = .ok b ↔ items = [] ∧ a = b := by
  cases items with
  | nil => simp [takeEnd]
  | cons c rest => simp [takeEnd]

/-! ## Enums -/

/-- A unit variant: its name, or a map with that one key and null. -/
def readVariant (names : List String) : Content → Except ReadError String
  | .str s => if s ∈ names then .ok s else .error (.unknownVariant s names)
  | .map [(s, c)] =>
      if s ∈ names then
        match c with
        | .unit => .ok s
        | c => .error (.data (.invalidType c.kind "unit"))
      else .error (.unknownVariant s names)
  | .map _ => .error (.invalidValue "map" "map with a single key")
  | c => .error (.data (.invalidType c.kind "string or map"))

/-- **A UNIT VARIANT** is read from its name, or from a map with that one key and
    null. -/
theorem readVariant_ok_iff {names : List String} {c : Content} {name : String} :
    readVariant names c = .ok name ↔ name ∈ names ∧ (c = .str name ∨ c = .map [(name, .unit)]) := by
  unfold readVariant
  constructor
  · intro h
    split at h
    · rename_i s
      split at h
      · rename_i hmem
        obtain rfl : s = name := Except.ok.inj h
        exact ⟨hmem, .inl rfl⟩
      · exact nomatch h
    · rename_i s c
      split at h
      · rename_i hmem
        split at h
        · obtain rfl : s = name := Except.ok.inj h
          exact ⟨hmem, .inr rfl⟩
        · exact nomatch h
      · exact nomatch h
    · exact nomatch h
    · exact nomatch h
  · rintro ⟨hmem, rfl | rfl⟩
    · show (if name ∈ names then Except.ok name else _) = _
      rw [if_pos hmem]
    · show (if name ∈ names then Except.ok name else _) = _
      rw [if_pos hmem]

/-- The tag of an internally tagged enum: a name, or its index. -/
def readTag (names : List String) : Content → Except ReadError String
  | .str s => if s ∈ names then .ok s else .error (.unknownVariant s names)
  | .int (.ofNat n) =>
      if h : n < names.length then .ok names[n]
      else .error (.invalidValue ("integer `" ++ toString n ++ "`")
        ("variant index 0 <= i < " ++ toString names.length))
  | c => .error (.data (.invalidType c.kind "variant identifier"))

/-- One entry of an internally tagged enum: its tag, or one of the variant's. -/
def visitTagged (tag : String) (names : List String)
    (slots : Option String × List (String × Content)) (entry : String × Content) :
    Except ReadError (Option String × List (String × Content)) :=
  if entry.1 = tag then
    (enter tag slots.1 (readTag names entry.2)).map fun name => (name, slots.2)
  else .ok (slots.1, slots.2 ++ [entry])

/-- An internally tagged enum, up to its variant: the name, and the content that
    is left for it. -/
def readTagged (tag expected : String) (names : List String) :
    Content → Except ReadError (String × Content)
  | .map entries => do
      let slots ← entries.foldlM (visitTagged tag names) (none, [])
      let name ← need tag slots.1
      return (name, .map slots.2)
  | .seq [] => .error (.data (.missingField tag))
  | .seq (c :: items) => (readTag names c).map fun name => (name, .seq items)
  | c => .error (.data (.invalidType c.kind expected))

/-- Entries that are not the tag are left as they are. -/
theorem foldlM_visitTagged {tag : String} {names : List String}
    {entries : List (String × Content)} (h : Absent tag entries) (name : Option String)
    (before : List (String × Content)) :
    entries.foldlM (visitTagged tag names) (name, before)
      = .ok (name, before ++ entries) := by
  induction entries generalizing before with
  | nil => simp [pure, Except.pure]
  | cons entry entries ih =>
      obtain ⟨hne, hrest⟩ := List.forall_mem_cons.mp h
      rw [List.foldlM_cons, visitTagged, if_neg hne]
      show entries.foldlM (visitTagged tag names) (name, before ++ [entry]) = _
      rw [ih hrest, List.append_assoc, List.singleton_append]

/-- **A TAGGED VALUE** is read as its variant, with the entries it was written
    with. -/
theorem readTagged_written {tag expected name : String} {names : List String}
    {entries : List (String × Content)} (hname : name ∈ names) (h : Absent tag entries) :
    readTagged tag expected names (.map ((tag, .str name) :: entries))
      = .ok (name, .map entries) := by
  have hvisit : visitTagged tag names (none, []) (tag, .str name) = .ok (some name, []) := by
    rw [visitTagged, if_pos rfl, readTag, if_pos hname]
    rfl
  rw [readTagged, List.foldlM_cons, hvisit]
  show (entries.foldlM (visitTagged tag names) (some name, []) >>= _) = _
  rw [foldlM_visitTagged h]
  rfl

end SerdeContent
