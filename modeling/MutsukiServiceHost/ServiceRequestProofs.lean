import MutsukiServiceHost.SerdeStructProofs
import MutsukiServiceHost.ServiceFrameProofs
import MutsukiServiceHost.ServiceSerdeProofs

/-! # Requests as data

    What a client may write for a `ControlRequest` on a JSONL line and for a
    `ControlRequestBody` in a frame.  Both are derived readers: of a map, in any
    order, with fields they do not know passed over, or of a sequence; `params`
    has a default, the others have not.

    * `request_accepted_iff`, `body_accepted_iff` — exactly what is accepted, and
      as which request.
    * `writtenAs_law` — order and unknown fields do not matter, and what the
      client's own writer puts down says its request and no other. -/

namespace ServiceControl

open SerdeContent

/-! ## Methods -/

/-- The name of a method (`rename_all = "snake_case"`). -/
def ControlMethod.name : ControlMethod → String
  | .serviceStatus => "service_status"
  | .serviceShutdown => "service_shutdown"
  | .coreStatus => "core_status"
  | .pluginList => "plugin_list"
  | .pluginReload => "plugin_reload"
  | .pluginDeploymentSet => "plugin_deployment_set"
  | .pluginDeploymentClear => "plugin_deployment_clear"
  | .runnerList => "runner_list"
  | .runnerRestart => "runner_restart"
  | .runnerStop => "runner_stop"
  | .eventSourceList => "event_source_list"
  | .eventSourceRestart => "event_source_restart"
  | .coreBeginDrain => "core_begin_drain"
  | .taskSubmitBatch => "task_submit_batch"
  | .taskList => "task_list"
  | .taskCancel => "task_cancel"
  | .taskOutcome => "task_outcome"
  | .taskEventsAfter => "task_events_after"
  | .healthCheck => "health_check"
  | .logTail => "log_tail"
  | .taskOutcomesBatch => "task_outcomes_batch"
  | .taskWait => "task_wait"
  | .runtimeStatistics => "runtime_statistics"
  | .hostMetrics => "host_metrics"

/-- The methods in the order of the source. -/
def ControlMethod.all : List ControlMethod :=
  [.serviceStatus, .serviceShutdown, .coreStatus, .pluginList, .pluginReload,
    .pluginDeploymentSet, .pluginDeploymentClear, .runnerList, .runnerRestart, .runnerStop,
    .eventSourceList, .eventSourceRestart, .coreBeginDrain, .taskSubmitBatch, .taskList,
    .taskCancel, .taskOutcome, .taskEventsAfter, .healthCheck, .logTail, .taskOutcomesBatch,
    .taskWait, .runtimeStatistics, .hostMetrics]

/-- Their names. -/
def ControlMethod.names : List String := ControlMethod.all.map ControlMethod.name

/-- The method of a name. -/
def ControlMethod.ofName (name : String) : Option ControlMethod :=
  ControlMethod.all.find? fun m => m.name = name

theorem ControlMethod.mem_all (m : ControlMethod) : m ∈ ControlMethod.all := by
  cases m <;> simp [ControlMethod.all]

theorem ControlMethod.name_mem (m : ControlMethod) : m.name ∈ ControlMethod.names :=
  List.mem_map_of_mem m.mem_all

theorem ControlMethod.ofName_name (m : ControlMethod) : ControlMethod.ofName m.name = some m := by
  cases m <;> rfl

theorem ControlMethod.name_ofName {name : String} {m : ControlMethod}
    (h : ControlMethod.ofName name = some m) : m.name = name := by
  simpa using List.find?_some h

/-- `Deserialize` of a `ControlMethod`. -/
def ControlMethod.deserialize (c : Content) : Except ReadError ControlMethod :=
  match readVariant ControlMethod.names c with
  | .error e => .error e
  | .ok name =>
      match ControlMethod.ofName name with
      | some m => .ok m
      | none => .error (.unknownVariant name ControlMethod.names)

/-- A method is written by its name, or as a map with that one key. -/
def ControlMethod.Written (m : ControlMethod) (c : Content) : Prop :=
  c = .str m.name ∨ c = .map [(m.name, .unit)]

theorem ControlMethod.deserialize_ok_iff {c : Content} {m : ControlMethod} :
    ControlMethod.deserialize c = .ok m ↔ m.Written c := by
  rw [ControlMethod.deserialize]
  constructor
  · intro h
    cases hread : readVariant ControlMethod.names c with
    | error e =>
        rw [hread] at h
        exact nomatch h
    | ok name =>
        rw [hread] at h
        dsimp only at h
        cases hname : ControlMethod.ofName name with
        | none =>
            rw [hname] at h
            exact nomatch h
        | some m' =>
            rw [hname] at h
            obtain rfl : m' = m := Except.ok.inj h
            rw [← ControlMethod.name_ofName hname] at hread
            exact (readVariant_ok_iff.mp hread).2
  · intro h
    rw [readVariant_ok_iff.mpr ⟨m.name_mem, h⟩]
    dsimp only
    rw [ControlMethod.ofName_name]

/-! ## The request of a line -/

/-- The fields of a `ControlRequest`, as they are written. -/
def ControlRequest.entries (r : ControlRequest) : List (String × Content) :=
  [("token", .str r.token), ("method", .str r.method.name), ("params", r.params.serialize)]

/-- `Serialize` of a `ControlRequest`. -/
def ControlRequest.serialize (r : ControlRequest) : Content := .map r.entries

/-- `Deserialize` of the field `params`. -/
def readParams (c : Content) : Except ReadError Value := .ok (Value.deserialize c)

/-- One entry of a `ControlRequest` in a map. -/
def ControlRequest.visit : Option String × Option ControlMethod × Option Value →
    String × Content → Except ReadError (Option String × Option ControlMethod × Option Value) :=
  visitBoth (visitField "token" readString)
    (visitBoth (visitField "method" ControlMethod.deserialize) (visitField "params" readParams))

/-- `Deserialize` of a `ControlRequest`. -/
def ControlRequest.deserialize : Content → Except ReadError ControlRequest
  | .map entries => do
      let slots ← entries.foldlM ControlRequest.visit (none, none, none)
      let token ← need "token" slots.1
      let method ← need "method" slots.2.1
      return ⟨token, method, slots.2.2.getD .null⟩
  | .seq items => do
      let (token, items) ← takeElement 0 "struct ControlRequest with 3 elements" readString items
      let (method, items) ←
        takeElement 1 "struct ControlRequest with 3 elements" ControlMethod.deserialize items
      let (params, items) ← takeDefault .null readParams items
      takeEnd 3 ⟨token, method, params⟩ items
  | c => .error (.data (.invalidType c.kind "struct ControlRequest"))

/-- The field `params` of a map, or what stands for it when it is missing. -/
def HoldsParams (entries : List (String × Content)) (params : Value) : Prop :=
  (Absent "params" entries ∧ params = .null) ∨
    ∃ c, Sole "params" entries c ∧ params = Value.deserialize c

/-- What the entries of a map have to be. -/
structure ControlRequest.HeldBy (r : ControlRequest) (entries : List (String × Content)) :
    Prop where
  token : Sole "token" entries (.str r.token)
  method : ∃ c, Sole "method" entries c ∧ r.method.Written c
  params : HoldsParams entries r.params

theorem holdsParams_iff {entries : List (String × Content)} {params : Value} :
    (∃ slot, Fills "params" readParams none entries slot ∧ slot.getD .null = params) ↔
      HoldsParams entries params := by
  rw [fills_default_iff, HoldsParams]
  constructor
  · rintro (h | ⟨c, hsole, hread⟩)
    · exact .inl h
    · exact .inr ⟨c, hsole, (Except.ok.inj hread).symm⟩
  · rintro (h | ⟨c, hsole, rfl⟩)
    · exact .inl h
    · exact .inr ⟨c, hsole, rfl⟩

/-- The slots at the end of the entries. -/
theorem ControlRequest.foldlM_visit {entries : List (String × Content)}
    {slots : Option String × Option ControlMethod × Option Value} :
    entries.foldlM ControlRequest.visit (none, none, none) = .ok slots ↔
      Fills "token" readString none entries slots.1 ∧
        Fills "method" ControlMethod.deserialize none entries slots.2.1 ∧
        Fills "params" readParams none entries slots.2.2 := by
  rw [ControlRequest.visit, foldlM_visitBoth_ok_iff, foldlM_visitBoth_ok_iff,
    foldlM_visitField_ok_iff, foldlM_visitField_ok_iff, foldlM_visitField_ok_iff]

/-- **A MAP** is accepted by what it holds. -/
theorem ControlRequest.deserialize_map_iff {entries : List (String × Content)}
    {r : ControlRequest} :
    ControlRequest.deserialize (.map entries) = .ok r ↔ r.HeldBy entries := by
  obtain ⟨token, method, params⟩ := r
  constructor
  · intro h
    rw [ControlRequest.deserialize] at h
    cases hfold : entries.foldlM ControlRequest.visit (none, none, none) with
    | error e =>
        rw [hfold] at h
        exact nomatch h
    | ok slots =>
        rw [hfold] at h
        obtain ⟨htoken, hmethod, hparams⟩ := ControlRequest.foldlM_visit.mp hfold
        obtain ⟨t, m, p⟩ := slots
        cases t with
        | none => exact nomatch h
        | some t =>
            cases m with
            | none => exact nomatch h
            | some m =>
                cases h
                obtain ⟨c, hsole, hread⟩ := fills_need_iff.mp ⟨some token, htoken, rfl⟩
                obtain ⟨c', hsole', hread'⟩ := fills_need_iff.mp ⟨some method, hmethod, rfl⟩
                refine ⟨?_, ⟨c', hsole', ControlMethod.deserialize_ok_iff.mp hread'⟩,
                  holdsParams_iff.mp ⟨p, hparams, rfl⟩⟩
                rwa [← readString_ok_iff.mp hread]
  · rintro ⟨htoken, ⟨c, hmethod, hwritten⟩, hparams⟩
    obtain ⟨t, hfillt, hneedt⟩ := fills_need_iff.mpr ⟨_, htoken, readString_ok_iff.mpr rfl⟩
    obtain ⟨m, hfillm, hneedm⟩ :=
      fills_need_iff.mpr ⟨c, hmethod, ControlMethod.deserialize_ok_iff.mpr hwritten⟩
    obtain ⟨p, hfillp, hgetp⟩ := holdsParams_iff.mpr hparams
    have hfold : entries.foldlM ControlRequest.visit (none, none, none) = .ok (t, m, p) :=
      ControlRequest.foldlM_visit.mpr ⟨hfillt, hfillm, hfillp⟩
    rw [ControlRequest.deserialize, hfold]
    show (do
      let token ← need "token" t
      let method ← need "method" m
      pure (⟨token, method, p.getD .null⟩ : ControlRequest)) = _
    rw [hneedt, hneedm, hgetp]
    rfl

/-- A request written as a sequence. -/
def ControlRequest.Listed (r : ControlRequest) (items : List Content) : Prop :=
  ∃ method, r.method.Written method ∧
    ((items = [.str r.token, method] ∧ r.params = .null) ∨
      ∃ c, items = [.str r.token, method, c] ∧ r.params = Value.deserialize c)

/-- **A SEQUENCE** is accepted with two elements or three. -/
theorem ControlRequest.deserialize_seq_iff {items : List Content} {r : ControlRequest} :
    ControlRequest.deserialize (.seq items) = .ok r ↔ r.Listed items := by
  obtain ⟨token, method, params⟩ := r
  rw [ControlRequest.deserialize]
  constructor
  · intro h
    obtain ⟨c, t, items₁, rfl, htoken, h₁⟩ := takeElement_bind_ok h
    obtain ⟨c', m, items₂, rfl, hmethod, h₂⟩ := takeElement_bind_ok h₁
    obtain rfl := readString_ok_iff.mp htoken
    have hwritten := ControlMethod.deserialize_ok_iff.mp hmethod
    obtain ⟨rfl, h₃⟩ | ⟨c'', p, items₃, rfl, hparams, h₃⟩ := takeDefault_bind_ok h₂
    · cases h₃
      exact ⟨c', hwritten, .inl ⟨rfl, rfl⟩⟩
    · obtain ⟨rfl, hr⟩ := takeEnd_ok_iff.mp h₃
      cases hparams
      cases hr
      exact ⟨c', hwritten, .inr ⟨c'', rfl, rfl⟩⟩
  · rintro ⟨c, hwritten, ⟨rfl, rfl⟩ | ⟨p, rfl, rfl⟩⟩
    · simp only [takeElement, readString, Except.map, bind, Except.bind,
        ControlMethod.deserialize_ok_iff.mpr hwritten]
      rfl
    · simp only [takeElement, readString, Except.map, bind, Except.bind,
        ControlMethod.deserialize_ok_iff.mpr hwritten]
      rfl

/-- **WHAT THE CLIENT WRITES** comes back whole. -/
theorem ControlRequest.deserialize_serialize {r : ControlRequest} (h : r.params.Proper) :
    ControlRequest.deserialize r.serialize = .ok r := by
  rw [ControlRequest.serialize, ControlRequest.entries, ControlRequest.deserialize_map_iff]
  refine ⟨?_, ⟨.str r.method.name, ?_, .inl rfl⟩, .inr ⟨r.params.serialize, ?_, ?_⟩⟩
  · simp [Sole]
  · simp [Sole]
  · simp [Sole]
  · rw [Value.deserialize_serialize h]

/-! ## What does not matter -/

section Irrelevant

variable {entries entries' : List (String × Content)} {r : ControlRequest} {field key : String}
  {value c : Content}

/-- The order of the entries. -/
theorem ControlRequest.HeldBy.perm (h : r.HeldBy entries) (hperm : entries.Perm entries') :
    r.HeldBy entries' := by
  obtain ⟨htoken, ⟨c, hmethod, hwritten⟩, hparams⟩ := h
  refine ⟨htoken.perm hperm, ⟨c, hmethod.perm hperm, hwritten⟩, ?_⟩
  rcases hparams with ⟨habsent, hnull⟩ | ⟨c', hsole, hvalue⟩
  · exact .inl ⟨habsent.perm hperm, hnull⟩
  · exact .inr ⟨c', hsole.perm hperm, hvalue⟩

theorem holdsParams_cons_iff {params : Value} (h : key ≠ "params") :
    HoldsParams ((key, value) :: entries) params ↔ HoldsParams entries params := by
  rw [HoldsParams, HoldsParams, absent_cons_iff h]
  simp only [sole_cons_iff h]

/-- An entry the struct does not know. -/
theorem ControlRequest.heldBy_cons_iff (h : key ∉ ["token", "method", "params"]) :
    r.HeldBy ((key, value) :: entries) ↔ r.HeldBy entries := by
  simp only [List.mem_cons, List.not_mem_nil, or_false, not_or] at h
  obtain ⟨htoken, hmethod, hparams⟩ := h
  constructor
  · rintro ⟨ht, ⟨c, hm, hwritten⟩, hp⟩
    exact ⟨(sole_cons_iff htoken).mp ht, ⟨c, (sole_cons_iff hmethod).mp hm, hwritten⟩,
      (holdsParams_cons_iff hparams).mp hp⟩
  · rintro ⟨ht, ⟨c, hm, hwritten⟩, hp⟩
    exact ⟨(sole_cons_iff htoken).mpr ht, ⟨c, (sole_cons_iff hmethod).mpr hm, hwritten⟩,
      (holdsParams_cons_iff hparams).mpr hp⟩

end Irrelevant

/-! ## What is accepted -/

/-- What a client may write for `r`. -/
def ControlRequest.WrittenAs (r : ControlRequest) (c : Content) : Prop :=
  (∃ entries, c = .map entries ∧ r.HeldBy entries) ∨ ∃ items, c = .seq items ∧ r.Listed items

/-- **WHAT IS ACCEPTED**, and as which request. -/
theorem request_accepted_iff {c : Content} {r : ControlRequest} :
    ControlRequest.deserialize c = .ok r ↔ r.WrittenAs c := by
  cases c with
  | map entries => simp [ControlRequest.deserialize_map_iff, ControlRequest.WrittenAs]
  | seq items => simp [ControlRequest.deserialize_seq_iff, ControlRequest.WrittenAs]
  | unit => simp [ControlRequest.deserialize, ControlRequest.WrittenAs]
  | bool b => simp [ControlRequest.deserialize, ControlRequest.WrittenAs]
  | int n => simp [ControlRequest.deserialize, ControlRequest.WrittenAs]
  | float bits => simp [ControlRequest.deserialize, ControlRequest.WrittenAs]
  | str s => simp [ControlRequest.deserialize, ControlRequest.WrittenAs]

/-- What is asked of `WrittenAs`. -/
structure WrittenLaw : Prop where
  order : ∀ (r : ControlRequest) (entries entries' : List (String × Content)),
    entries.Perm entries' → r.WrittenAs (.map entries) → r.WrittenAs (.map entries')
  unknown : ∀ (r : ControlRequest) (entries : List (String × Content)) (key : String)
    (value : Content), key ∉ ["token", "method", "params"] →
    (r.WrittenAs (.map ((key, value) :: entries)) ↔ r.WrittenAs (.map entries))
  written : ∀ r : ControlRequest, r.params.Proper → ∀ r', r'.WrittenAs r.serialize ↔ r' = r

theorem writtenAs_law : WrittenLaw where
  order := by
    intro r entries entries' hperm h
    rw [← request_accepted_iff, ControlRequest.deserialize_map_iff] at h ⊢
    exact h.perm hperm
  unknown := by
    intro r entries key value hkey
    rw [← request_accepted_iff, ← request_accepted_iff, ControlRequest.deserialize_map_iff,
      ControlRequest.deserialize_map_iff]
    exact ControlRequest.heldBy_cons_iff hkey
  written := by
    intro r hproper r'
    rw [← request_accepted_iff, ControlRequest.deserialize_serialize hproper, Except.ok.injEq,
      eq_comm]

end ServiceControl

namespace ServiceFrame

open SerdeContent ServiceControl

/-! ## The body of a frame -/

/-- `Serialize` of a `ControlRequestBodyRef`. -/
def ControlRequestBody.serialize (b : ControlRequestBody) : Content :=
  .map [("token", .str b.token), ("params", b.params.serialize)]

/-- One entry of a `ControlRequestBody` in a map. -/
def ControlRequestBody.visit : Option String × Option Value → String × Content →
    Except ReadError (Option String × Option Value) :=
  visitBoth (visitField "token" readString) (visitField "params" readParams)

/-- `Deserialize` of a `ControlRequestBody`. -/
def ControlRequestBody.deserialize : Content → Except ReadError ControlRequestBody
  | .map entries => do
      let slots ← entries.foldlM ControlRequestBody.visit (none, none)
      let token ← need "token" slots.1
      return ⟨token, slots.2.getD .null⟩
  | .seq items => do
      let (token, items) ←
        takeElement 0 "struct ControlRequestBody with 2 elements" readString items
      let (params, items) ← takeDefault .null readParams items
      takeEnd 2 ⟨token, params⟩ items
  | c => .error (.data (.invalidType c.kind "struct ControlRequestBody"))

/-- **A BODY IN A MAP** is accepted by what the map holds. -/
theorem ControlRequestBody.deserialize_map_iff {entries : List (String × Content)}
    {b : ControlRequestBody} : ControlRequestBody.deserialize (.map entries) = .ok b ↔
      Sole "token" entries (.str b.token) ∧ HoldsParams entries b.params := by
  obtain ⟨token, params⟩ := b
  have hvisit : ∀ slots : Option String × Option Value,
      entries.foldlM ControlRequestBody.visit (none, none) = .ok slots ↔
        Fills "token" readString none entries slots.1 ∧
          Fills "params" readParams none entries slots.2 := by
    intro slots
    rw [ControlRequestBody.visit, foldlM_visitBoth_ok_iff, foldlM_visitField_ok_iff,
      foldlM_visitField_ok_iff]
  constructor
  · intro h
    rw [ControlRequestBody.deserialize] at h
    cases hfold : entries.foldlM ControlRequestBody.visit (none, none) with
    | error e =>
        rw [hfold] at h
        exact nomatch h
    | ok slots =>
        rw [hfold] at h
        obtain ⟨htoken, hparams⟩ := (hvisit slots).mp hfold
        obtain ⟨t, p⟩ := slots
        cases t with
        | none => exact nomatch h
        | some t =>
            cases h
            obtain ⟨c, hsole, hread⟩ := fills_need_iff.mp ⟨some token, htoken, rfl⟩
            refine ⟨?_, holdsParams_iff.mp ⟨p, hparams, rfl⟩⟩
            rwa [← readString_ok_iff.mp hread]
  · rintro ⟨htoken, hparams⟩
    obtain ⟨t, hfillt, hneedt⟩ := fills_need_iff.mpr ⟨_, htoken, readString_ok_iff.mpr rfl⟩
    obtain ⟨p, hfillp, hgetp⟩ := holdsParams_iff.mpr hparams
    rw [ControlRequestBody.deserialize, (hvisit (t, p)).mpr ⟨hfillt, hfillp⟩]
    show (do
      let token ← need "token" t
      pure (⟨token, p.getD .null⟩ : ControlRequestBody)) = _
    rw [hneedt, hgetp]
    rfl

/-- The body a client writes comes back whole. -/
theorem ControlRequestBody.deserialize_serialize {b : ControlRequestBody} (h : b.params.Proper) :
    ControlRequestBody.deserialize b.serialize = .ok b := by
  rw [ControlRequestBody.serialize, ControlRequestBody.deserialize_map_iff]
  refine ⟨?_, .inr ⟨b.params.serialize, ?_, ?_⟩⟩
  · simp [Sole]
  · simp [Sole]
  · rw [Value.deserialize_serialize h]

end ServiceFrame
