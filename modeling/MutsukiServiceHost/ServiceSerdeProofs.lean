import MutsukiServiceHost.SerdeContentProofs
import MutsukiServiceHost.ServiceControlProofs

/-! # Control responses in the serde data model

    `Serialize` and `Deserialize` of `serde_json::Value`, and the derived ones of
    `ControlErrorBody` and `ControlResponse`, between the Rust values and what a
    format writes or has read.

    * `Value.deserialize_serialize` — every JSON value comes back.
    * `ControlResponse.deserialize_serialize` — a response comes back as
      `ControlResponse.received`: a result that is null is gone.
    * `ControlResponse.deserialize_proper` — whatever a format has read, the
      response made of it holds a value that can exist. -/

namespace ServiceControl

open SerdeContent

/-! ## JSON values -/

/-- `f64::is_finite`. -/
def isFinite (bits : UInt64) : Bool := bits >>> 52 &&& 0x7FF != 0x7FF

/-- `Serialize` of a number. -/
def Number.serialize : Number → Content
  | .posInt n => .int n
  | .negInt n => .int (Int.negSucc n)
  | .float bits => .float bits

mutual

/-- `Serialize` of a `Value`. -/
def Value.serialize : Value → Content
  | .null => .unit
  | .bool b => .bool b
  | .number n => n.serialize
  | .string s => .str s
  | .array items => .seq (serializeItems items)
  | .object members => .map (serializeMembers members)

/-- The elements of an array. -/
def serializeItems : List Value → List Content
  | [] => []
  | value :: items => value.serialize :: serializeItems items

/-- The members of an object. -/
def serializeMembers : List (String × Value) → List (String × Content)
  | [] => []
  | (key, value) :: members => (key, value.serialize) :: serializeMembers members

end

mutual

/-- `Deserialize` of a `Value`; a float that is not finite is no JSON number. -/
def Value.deserialize : Content → Value
  | .unit => .null
  | .bool b => .bool b
  | .int (.ofNat n) => .number (.posInt n)
  | .int (.negSucc n) => .number (.negInt n)
  | .float bits => if isFinite bits then .number (.float bits) else .null
  | .str s => .string s
  | .seq items => .array (deserializeItems items)
  | .map entries => .object (collect (deserializeMembers entries))

/-- The elements of a sequence. -/
def deserializeItems : List Content → List Value
  | [] => []
  | c :: items => Value.deserialize c :: deserializeItems items

/-- The entries of a map. -/
def deserializeMembers : List (String × Content) → List (String × Value)
  | [] => []
  | (key, c) :: entries => (key, Value.deserialize c) :: deserializeMembers entries

end

/-- A `Value` that can exist: the members of an object are a `BTreeMap`, and a
    number is never infinite or NaN. -/
inductive Value.Proper : Value → Prop where
  | null : Proper .null
  | bool (b : Bool) : Proper (.bool b)
  | posInt (n : Nat) : Proper (.number (.posInt n))
  | negInt (n : Nat) : Proper (.number (.negInt n))
  | float (bits : UInt64) : isFinite bits = true → Proper (.number (.float bits))
  | string (s : String) : Proper (.string s)
  | array (items : List Value) : (∀ v ∈ items, v.Proper) → Proper (.array items)
  | object (members : List (String × Value)) : Ascending members → (∀ m ∈ members, m.2.Proper) →
      Proper (.object members)

mutual

/-- **A VALUE COMES BACK**, by recursion on the value. -/
theorem Value.deserialize_serialize : ∀ {v : Value}, v.Proper → Value.deserialize v.serialize = v
  | .null, _ => rfl
  | .bool _, _ => rfl
  | .number (.posInt _), _ => rfl
  | .number (.negInt _), _ => rfl
  | .number (.float _), .float _ h => if_pos h
  | .string _, _ => rfl
  | .array items, .array _ h => by
      rw [Value.serialize, Value.deserialize, deserializeItems_serializeItems items h]
  | .object members, .object _ hkeys h => by
      rw [Value.serialize, Value.deserialize, deserializeMembers_serializeMembers members h,
        collect_of_ascending hkeys]

theorem deserializeItems_serializeItems : ∀ (items : List Value), (∀ v ∈ items, v.Proper) →
    deserializeItems (serializeItems items) = items
  | [], _ => rfl
  | v :: items, h => by
      obtain ⟨hv, hitems⟩ := List.forall_mem_cons.mp h
      rw [serializeItems, deserializeItems, Value.deserialize_serialize hv,
        deserializeItems_serializeItems items hitems]

theorem deserializeMembers_serializeMembers : ∀ (members : List (String × Value)),
    (∀ m ∈ members, m.2.Proper) → deserializeMembers (serializeMembers members) = members
  | [], _ => rfl
  | (key, v) :: members, h => by
      obtain ⟨hv, hmembers⟩ := List.forall_mem_cons.mp h
      rw [serializeMembers, deserializeMembers, Value.deserialize_serialize hv,
        deserializeMembers_serializeMembers members hmembers]

end

mutual

/-- Whatever a format has read, the value made of it is proper. -/
theorem Value.deserialize_proper : ∀ c : Content, (Value.deserialize c).Proper
  | .unit => .null
  | .bool b => .bool b
  | .int (.ofNat n) => .posInt n
  | .int (.negSucc n) => .negInt n
  | .float bits => by
      rw [Value.deserialize]
      split
      · rename_i h
        exact .float bits h
      · exact .null
  | .str s => .string s
  | .seq items => .array _ (deserializeItems_proper items)
  | .map entries =>
      .object _ (collect_ascending _) fun m hm =>
        deserializeMembers_proper entries m (mem_collect hm)

theorem deserializeItems_proper : ∀ (items : List Content), ∀ v ∈ deserializeItems items, v.Proper
  | [], _, h => nomatch h
  | c :: items, v, h => by
      rw [deserializeItems] at h
      obtain rfl | h := List.mem_cons.mp h
      · exact Value.deserialize_proper c
      · exact deserializeItems_proper items v h

theorem deserializeMembers_proper : ∀ (entries : List (String × Content)),
    ∀ m ∈ deserializeMembers entries, m.2.Proper
  | [], _, h => nomatch h
  | (key, c) :: entries, m, h => by
      rw [deserializeMembers] at h
      obtain rfl | h := List.mem_cons.mp h
      · exact Value.deserialize_proper c
      · exact deserializeMembers_proper entries m h

end

/-! ## The error body -/

/-- `Serialize` of a `ControlErrorBody`. -/
def ControlErrorBody.serialize (e : ControlErrorBody) : Content :=
  .map [("code", .str e.code), ("message", .str e.message)]

/-- The slots of its fields. -/
structure ErrorFields where
  code : Option String
  message : Option String

/-- One entry of the map; a field the struct does not have is ignored. -/
def ErrorFields.visit (slots : ErrorFields) (entry : String × Content) :
    Except DeError ErrorFields :=
  if entry.1 = "code" then
    (fill "code" slots.code (asString entry.2)).map fun code => { slots with code := code }
  else if entry.1 = "message" then
    (fill "message" slots.message (asString entry.2)).map fun message =>
      { slots with message := message }
  else .ok slots

/-- The struct at the end of the entries. -/
def ErrorFields.finish (slots : ErrorFields) : Except DeError ControlErrorBody := do
  let code ← required "code" slots.code
  let message ← required "message" slots.message
  return ⟨code, message⟩

/-- `Deserialize` of a `ControlErrorBody`. -/
def ControlErrorBody.deserialize : Content → Except DeError ControlErrorBody
  | .map entries => do
      let slots ← entries.foldlM ErrorFields.visit ⟨none, none⟩
      slots.finish
  | .seq items => do
      let (code, items) ← nextElement 0 "struct ControlErrorBody with 2 elements" asString items
      let (message, items) ← nextElement 1 "struct ControlErrorBody with 2 elements" asString items
      if items.isEmpty then return ⟨code, message⟩
      else .error (.invalidLength (items.length + 2) "fewer elements in sequence")
  | c => .error (.invalidType c.kind "struct ControlErrorBody")

theorem ControlErrorBody.deserialize_serialize (e : ControlErrorBody) :
    ControlErrorBody.deserialize e.serialize = .ok e :=
  rfl

/-! ## The response -/

/-- `Serialize` of a `ControlResponse`: fields that are `None` are skipped. -/
def ControlResponse.serialize (r : ControlResponse) : Content :=
  .map (("ok", .bool r.ok) :: skipNone "result" (r.result.map Value.serialize)
    ++ skipNone "error" (r.error.map ControlErrorBody.serialize))

/-- `Deserialize` of the field `result`. -/
def deserializeResult : Content → Except DeError (Option Value) :=
  asOption fun c => .ok (Value.deserialize c)

/-- `Deserialize` of the field `error`. -/
def deserializeError : Content → Except DeError (Option ControlErrorBody) :=
  asOption ControlErrorBody.deserialize

/-- The slots of its fields. -/
structure ResponseFields where
  ok : Option Bool
  result : Option (Option Value)
  error : Option (Option ControlErrorBody)

/-- One entry of the map; a field the struct does not have is ignored. -/
def ResponseFields.visit (slots : ResponseFields) (entry : String × Content) :
    Except DeError ResponseFields :=
  if entry.1 = "ok" then
    (fill "ok" slots.ok (asBool entry.2)).map fun ok => { slots with ok := ok }
  else if entry.1 = "result" then
    (fill "result" slots.result (deserializeResult entry.2)).map fun result =>
      { slots with result := result }
  else if entry.1 = "error" then
    (fill "error" slots.error (deserializeError entry.2)).map fun error =>
      { slots with error := error }
  else .ok slots

/-- The struct at the end of the entries: an `Option` that is missing is
    `None`. -/
def ResponseFields.finish (slots : ResponseFields) : Except DeError ControlResponse := do
  let ok ← required "ok" slots.ok
  return ⟨ok, slots.result.join, slots.error.join⟩

/-- `Deserialize` of a `ControlResponse`. -/
def ControlResponse.deserialize : Content → Except DeError ControlResponse
  | .map entries => do
      let slots ← entries.foldlM ResponseFields.visit ⟨none, none, none⟩
      slots.finish
  | .seq items => do
      let (ok, items) ← nextElement 0 "struct ControlResponse with 3 elements" asBool items
      let (result, items) ←
        nextElement 1 "struct ControlResponse with 3 elements" deserializeResult items
      let (error, items) ←
        nextElement 2 "struct ControlResponse with 3 elements" deserializeError items
      if items.isEmpty then return ⟨ok, result, error⟩
      else .error (.invalidLength (items.length + 3) "fewer elements in sequence")
  | c => .error (.invalidType c.kind "struct ControlResponse")

/-- A response whose result can exist. -/
def ControlResponse.Proper (r : ControlResponse) : Prop := ∀ v, r.result = some v → v.Proper

/-- What a receiver has in place of a result. -/
def receivedResult : Value → Option Value
  | .null => none
  | v => some v

/-- The response a receiver has. -/
def ControlResponse.received (r : ControlResponse) : ControlResponse :=
  { r with result := r.result.bind receivedResult }

theorem receivedResult_eq_some_iff {v : Value} : receivedResult v = some v ↔ v ≠ .null := by
  cases v <;> simp [receivedResult]

theorem Value.serialize_ne_unit {v : Value} (h : v ≠ .null) : v.serialize ≠ .unit := by
  cases v with
  | null => exact absurd rfl h
  | number n => cases n <;> exact nofun
  | bool b => exact nofun
  | string s => exact nofun
  | array items =>
      rw [Value.serialize]
      exact nofun
  | object members =>
      rw [Value.serialize]
      exact nofun

/-- Null is the one result that is read as something else. -/
theorem deserializeResult_serialize {v : Value} (h : v.Proper) :
    deserializeResult v.serialize = .ok (receivedResult v) := by
  by_cases hnull : v = .null
  · rw [hnull]
    rfl
  · rw [deserializeResult, asOption_of_ne (Value.serialize_ne_unit hnull),
      Value.deserialize_serialize h, receivedResult_eq_some_iff.mpr hnull]
    rfl

/-- The entry of a result, read into its slot. -/
theorem visit_result (ok : Bool) {v : Value} (h : v.Proper) :
    ResponseFields.visit ⟨some ok, none, none⟩ ("result", v.serialize)
      = .ok ⟨some ok, some (receivedResult v), none⟩ := by
  rw [ResponseFields.visit, if_neg (show ("result" : String) ≠ "ok" by decide), if_pos rfl,
    deserializeResult_serialize h]
  rfl

/-- **WHAT COMES BACK** of a response: all of it, but for a result that is
    null. -/
theorem ControlResponse.deserialize_serialize {r : ControlResponse} (h : r.Proper) :
    ControlResponse.deserialize r.serialize = .ok r.received := by
  obtain ⟨ok, result, error⟩ := r
  have hok : ResponseFields.visit ⟨none, none, none⟩ ("ok", .bool ok)
      = .ok ⟨some ok, none, none⟩ := rfl
  cases result with
  | none =>
      cases error with
      | none => rfl
      | some e => rfl
  | some v =>
      have hresult := visit_result ok (h v rfl)
      cases error with
      | none =>
          simp only [ControlResponse.serialize, skipNone, Option.map_some, Option.map_none,
            List.append_nil, ControlResponse.deserialize, List.foldlM_cons, List.foldlM_nil, hok]
          simp only [Except.bind, bind, hresult]
          rfl
      | some e =>
          simp only [ControlResponse.serialize, skipNone, Option.map_some, List.cons_append,
            List.nil_append, ControlResponse.deserialize, List.foldlM_cons, List.foldlM_nil, hok]
          simp only [Except.bind, bind, hresult]
          rfl

/-! ## What is accepted -/

theorem deserializeResult_proper {c : Content} {result : Option Value} {v : Value}
    (h : deserializeResult c = .ok result) (hv : result = some v) : v.Proper := by
  by_cases hunit : c = .unit
  · subst hunit
    cases h
    exact nomatch hv
  · rw [deserializeResult, asOption_of_ne hunit, hv] at h
    cases h
    exact Value.deserialize_proper c

/-- The result read so far can exist. -/
def ResponseFields.Proper (slots : ResponseFields) : Prop :=
  ∀ v, slots.result.join = some v → v.Proper

theorem ResponseFields.Proper.visit_proper {slots slots' : ResponseFields}
    {entry : String × Content}
    (h : slots.Proper) (hvisit : slots.visit entry = .ok slots') : slots'.Proper := by
  rw [ResponseFields.visit] at hvisit
  split at hvisit
  · obtain ⟨ok, -, rfl⟩ := fill_map_ok hvisit
    exact h
  · split at hvisit
    · obtain ⟨result, hresult, rfl⟩ := fill_map_ok hvisit
      exact fun v hv => deserializeResult_proper hresult hv
    · split at hvisit
      · obtain ⟨error, -, rfl⟩ := fill_map_ok hvisit
        exact h
      · cases hvisit
        exact h

theorem ResponseFields.Proper.foldlM_proper {slots slots' : ResponseFields}
    {entries : List (String × Content)} (h : slots.Proper)
    (hfold : entries.foldlM ResponseFields.visit slots = .ok slots') : slots'.Proper := by
  induction entries generalizing slots with
  | nil =>
      cases hfold
      exact h
  | cons entry entries ih =>
      rw [List.foldlM_cons] at hfold
      cases hvisit : slots.visit entry with
      | error e =>
          rw [hvisit] at hfold
          exact nomatch hfold
      | ok slots₁ =>
          rw [hvisit] at hfold
          exact ih (h.visit_proper hvisit) hfold

theorem ResponseFields.Proper.finish {slots : ResponseFields} {r : ControlResponse}
    (h : slots.Proper) (hfinish : slots.finish = .ok r) : r.Proper := by
  rw [ResponseFields.finish] at hfinish
  cases hok : required "ok" slots.ok with
  | error e =>
      rw [hok] at hfinish
      exact nomatch hfinish
  | ok ok =>
      rw [hok] at hfinish
      cases hfinish
      exact h

/-- **WHAT IS ACCEPTED IS PROPER**: whatever a format has read, a response made
    of it holds a JSON value that can exist. -/
theorem ControlResponse.deserialize_proper {c : Content} {r : ControlResponse}
    (h : ControlResponse.deserialize c = .ok r) : r.Proper := by
  cases c with
  | map entries =>
      rw [ControlResponse.deserialize] at h
      have hempty : ResponseFields.Proper ⟨none, none, none⟩ := fun v hv => nomatch hv
      cases hfold : entries.foldlM ResponseFields.visit ⟨none, none, none⟩ with
      | error e =>
          rw [hfold] at h
          exact nomatch h
      | ok slots =>
          rw [hfold] at h
          exact (hempty.foldlM_proper hfold).finish h
  | seq items =>
      rw [ControlResponse.deserialize] at h
      obtain ⟨-, ok, items₁, -, h⟩ := nextElement_bind_ok h
      obtain ⟨c, result, items₂, hresult, h⟩ := nextElement_bind_ok h
      obtain ⟨-, error, items₃, -, h⟩ := nextElement_bind_ok h
      dsimp only at h
      split at h
      · cases h
        exact fun v hv => deserializeResult_proper hresult hv
      · exact nomatch h
  | unit => exact nomatch h
  | bool b => exact nomatch h
  | int n => exact nomatch h
  | float bits => exact nomatch h
  | str s => exact nomatch h

/-! ## Which responses survive -/

/-- Which responses come back unchanged. -/
theorem ControlResponse.received_eq_iff {r : ControlResponse} :
    r.received = r ↔ r.result ≠ some .null := by
  obtain ⟨ok, result, error⟩ := r
  cases result with
  | none => simp [ControlResponse.received]
  | some v => simp [ControlResponse.received, receivedResult_eq_some_iff]

end ServiceControl
