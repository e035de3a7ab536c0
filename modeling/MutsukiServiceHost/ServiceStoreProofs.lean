import MutsukiServiceHost.CriticalSectionProofs
import MutsukiServiceHost.ServiceOwnerConfigProofs
import MutsukiServiceHost.ServiceSurfaceProofs

/-! # The product file — calls beside each other

    `ConfiguredPluginStore` is cloned to everyone who edits the product file;
    the clones share one lock.  A call takes it, reads the file, writes a
    temporary file and renames it, and any of these can fail, be torn, or be the
    last thing that the process does.

    * `store_law` — whatever the calls do beside each other and wherever the
      process stops, the file is what the calls that returned make of it, one
      after the other in the order of their returns, and at most the one that
      was under way.
    * `settings_law` — so the file is a map from plugins and surface fields to
      values: each has the value of the last successful call that set it, and
      no call undoes another one's. -/

namespace ServiceStore

open Transition CriticalSection SerdeContent ServiceDocument
open ServiceControl (Value)
open ServiceLoad (Node PathBuf trim)
open ServiceSecret (SecretDisk)

/-! ## A call, step by step -/

/-- A call of the store; the fields of a patch are a `BTreeMap`. -/
inductive StoreCall where
  | replaceConfig (pluginId : String) (config : Value)
  | patchProductSurface (fields : List (String × Value)) (sorted : Ascending fields)

/-- Where a call with the lock is. -/
inductive Stage where
  | reading (call : StoreCall)
  /-- in `fs::write` -/
  | writing (content : String)
  /-- in `fs::rename` -/
  | replacing (content : String)
  | done (outcome : Outcome Unit)

/-- How the file operation of a step ends. -/
inductive Io where
  | read (answer : Except String Unit)
  /-- the temporary file is written in part -/
  | tear (torn : Node)
  | write (answer : Except String Unit) (torn : Node) (nanos : Nat)
  | rename (answer : Except String Unit)

/-- What a call makes of the document, up to the text. -/
def edited (format : TomlFormat) (path : PathBuf) (call : StoreCall) (document : Toml) :
    Outcome String :=
  match call with
  | .replaceConfig pluginId config =>
      match replaceDocument pluginId path config document with
      | .error e => .error e
      | .panicked => .panicked
      | .ok document =>
          match format.print document with
          | .error detail => .error (.invalidConfiguredPluginValue pluginId detail)
          | .ok content => .ok content
  | .patchProductSurface fields _ =>
      match patchDocument fields document with
      | .error e => .error e
      | .ok document =>
          match format.print document with
          | .error detail => .error (.write (.writeManagedFile path detail))
          | .ok content => .ok content

/-- The file operations of a call that reads with `answer` and does not come to
    the others. -/
def readIo (answer : Except String Unit) : ManagedIo := ⟨answer, .ok (), .absent, .ok (), 0⟩

/-- One step of a call with the lock. -/
def stepCall (format : TomlFormat) (path : PathBuf) :
    Stage → SecretDisk → Io → Option (Stage × SecretDisk)
  | .reading call, disk, .read answer =>
      match readDocument format (readIo answer) path disk with
      | .error e => some (.done (.error e), disk)
      | .ok document =>
          match edited format path call document with
          | .error e => some (.done (.error e), disk)
          | .panicked => some (.done .panicked, disk)
          | .ok content => some (.writing content, disk)
  | .writing content, disk, .tear torn => some (.writing content, { disk with temp := torn })
  | .writing content, disk, .write answer torn nanos =>
      match answer with
      | .error detail => some (.done (.error (.write (.writeManagedFile
          (ServiceSecret.tempPath ⟨.ok (), .error detail, torn, .ok (), .ok (), nanos⟩ path)
            detail))),
          { disk with temp := torn })
      | .ok () => some (.replacing content, { disk with temp := .file content })
  | .replacing content, disk, .rename answer =>
      match answer with
      | .error detail => some (.done (.error (.write (.writeManagedFile path detail))), disk)
      | .ok () => some (.done (.ok ()), ⟨.file content, .absent⟩)
  | _, _, _ => none

/-- `ConfiguredPluginStore`: the file behind the lock. -/
def store (format : TomlFormat) (path : PathBuf) :
    Object SecretDisk StoreCall Stage Io (Outcome Unit) where
  enter := .reading
  step := stepCall format path
  result
    | .done outcome => some outcome
    | _ => none

/-! ## A call as a whole -/

/-- How a patch ends, as the end of a call. -/
def Outcome.ofExcept : Except ManagedError Unit → Outcome Unit
  | .ok () => .ok ()
  | .error e => .error e

/-- The call that nobody is beside. -/
def perform (format : TomlFormat) (path : PathBuf) (io : ManagedIo) (disk : SecretDisk) :
    StoreCall → Managed
  | .replaceConfig pluginId config => replaceConfig format io path disk pluginId config
  | .patchProductSurface fields _ =>
      let patched := patchProductSurface format io path disk fields
      ⟨Outcome.ofExcept patched.result, patched.disk⟩

section Perform

variable {format : TomlFormat} {path : PathBuf} {io io' : ManagedIo} {disk disk' : SecretDisk}
  {call : StoreCall} {document : Toml} {content : String}

theorem readDocument_congr (io io' : ManagedIo) (h : io.read = io'.read) :
    readDocument format io path disk = readDocument format io' path disk := by
  rw [readDocument, readDocument, h]

theorem perform_of_unread {e : ManagedError} (h : readDocument format io path disk = .error e) :
    perform format path io disk call = ⟨.error e, disk⟩ := by
  cases call with
  | replaceConfig pluginId config => rw [perform, replaceConfig, h]
  | patchProductSurface fields =>
      rw [perform, patchProductSurface, h]
      rfl

theorem perform_of_refused {e : ManagedError} (h : readDocument format io path disk = .ok document)
    (hedited : edited format path call document = .error e) :
    perform format path io disk call = ⟨.error e, disk⟩ := by
  cases call with
  | replaceConfig pluginId config =>
      rw [edited] at hedited
      rw [perform, replaceConfig, h]
      cases hreplace : replaceDocument pluginId path config document with
      | error e' =>
          rw [hreplace] at hedited
          simp [hreplace, Outcome.error.inj hedited]
      | panicked =>
          rw [hreplace] at hedited
          cases hedited
      | ok document' =>
          rw [hreplace] at hedited
          cases hprint : format.print document' with
          | error detail =>
              simp only [hprint] at hedited
              simp [hreplace, hprint, Outcome.error.inj hedited]
          | ok content =>
              simp only [hprint] at hedited
              cases hedited
  | patchProductSurface fields =>
      rw [edited] at hedited
      rw [perform, patchProductSurface, h]
      cases hpatch : patchDocument fields document with
      | error e' =>
          rw [hpatch] at hedited
          simp only [hpatch, Outcome.error.inj hedited]
          rfl
      | ok document' =>
          rw [hpatch] at hedited
          cases hprint : format.print document' with
          | error detail =>
              simp only [hprint] at hedited
              simp only [hpatch, hprint, ← Outcome.error.inj hedited]
              rfl
          | ok content =>
              simp only [hprint] at hedited
              cases hedited

theorem perform_of_edited (h : readDocument format io path disk = .ok document)
    (hedited : edited format path call document = .ok content) :
    perform format path io disk call = match atomicWrite io path content disk with
      | (.error e, disk) => ⟨.error (.write e), disk⟩
      | (.ok (), disk) => ⟨.ok (), disk⟩ := by
  cases call with
  | replaceConfig pluginId config =>
      rw [edited] at hedited
      rw [perform, replaceConfig, h]
      cases hreplace : replaceDocument pluginId path config document with
      | error e' =>
          rw [hreplace] at hedited
          cases hedited
      | panicked =>
          rw [hreplace] at hedited
          cases hedited
      | ok document' =>
          rw [hreplace] at hedited
          cases hprint : format.print document' with
          | error detail =>
              simp only [hprint] at hedited
              cases hedited
          | ok content' =>
              simp only [hprint] at hedited
              obtain rfl := Outcome.ok.inj hedited
              cases hwrite : atomicWrite io path content' disk with
              | mk result disk' => cases result <;> simp only [hreplace, hprint, hwrite]
  | patchProductSurface fields =>
      rw [edited] at hedited
      rw [perform, patchProductSurface, h]
      cases hpatch : patchDocument fields document with
      | error e' =>
          rw [hpatch] at hedited
          cases hedited
      | ok document' =>
          rw [hpatch] at hedited
          cases hprint : format.print document' with
          | error detail =>
              simp only [hprint] at hedited
              cases hedited
          | ok content' =>
              simp only [hprint] at hedited
              obtain rfl := Outcome.ok.inj hedited
              cases hwrite : atomicWrite io path content' disk with
              | mk result disk' => cases result <;> simp [hpatch, hprint, hwrite, Outcome.ofExcept]

/-- The `expect` of a call is not reached with anything but a table. -/
theorem edited_not_panicked (format : TomlFormat) (path : PathBuf) (call : StoreCall)
    (document : Toml) : edited format path call document ≠ .panicked := by
  intro h
  cases call with
  | replaceConfig pluginId config =>
      simp only [edited] at h
      obtain ⟨e, hreplace, -⟩ | ⟨-, -, document', -, hreplace, -⟩ :=
        replaceDocument_cases pluginId path config document
      · rw [hreplace] at h
        exact nomatch h
      · rw [hreplace] at h
        dsimp only at h
        split at h <;> exact nomatch h
  | patchProductSurface fields =>
      simp only [edited] at h
      split at h
      · exact nomatch h
      · split at h <;> exact nomatch h

/-- What a stage says of the call that has come to it alone. -/
def Stage.Reached (format : TomlFormat) (path : PathBuf) (call : StoreCall) (disk : SecretDisk) :
    Stage × SecretDisk → Prop
  | (.reading call', disk') => call' = call ∧ disk' = disk
  | (.writing content, disk') => disk'.file = disk.file ∧ ∃ answer document,
      readDocument format (readIo answer) path disk = .ok document ∧
      edited format path call document = .ok content
  | (.replacing content, disk') => disk' = { disk with temp := .file content } ∧ ∃ answer document,
      readDocument format (readIo answer) path disk = .ok document ∧
      edited format path call document = .ok content
  | (.done outcome, disk') => ∃ io, perform format path io disk call = ⟨outcome, disk'⟩

/-- **STEP BY STEP** a call does what it does as a whole. -/
theorem reached_of_alone {stage : Stage}
    (h : Alone (store format path) call disk stage disk') :
    Stage.Reached format path call disk (stage, disk') := by
  have hstart : Stage.Reached format path call disk (.reading call, disk) := ⟨rfl, rfl⟩
  refine h.invariant (P := Stage.Reached format path call disk) hstart ?_
  rintro ⟨stage, disk₁⟩ io ⟨stage', disk₂⟩ hreached - hstep
  replace hstep : stepCall format path stage disk₁ io = some (stage', disk₂) := hstep
  unfold stepCall at hstep
  split at hstep
  · -- the file is read
    rename_i call' disk₁ answer
    obtain ⟨rfl, rfl⟩ := hreached
    split at hstep
    · rename_i e hread
      obtain ⟨rfl, rfl⟩ := Prod.mk.inj (Option.some.inj hstep)
      exact ⟨readIo answer, perform_of_unread hread⟩
    · rename_i document hread
      split at hstep
      · rename_i e hedited
        obtain ⟨rfl, rfl⟩ := Prod.mk.inj (Option.some.inj hstep)
        exact ⟨readIo answer, perform_of_refused hread hedited⟩
      · rename_i hpanic
        exact (edited_not_panicked _ _ _ _ hpanic).elim
      · rename_i content hedited
        obtain ⟨rfl, rfl⟩ := Prod.mk.inj (Option.some.inj hstep)
        exact ⟨rfl, answer, document, hread, hedited⟩
  · obtain ⟨rfl, rfl⟩ := Prod.mk.inj (Option.some.inj hstep)
    exact hreached
  · -- the temporary file is written
    rename_i content disk₁ answer torn nanos
    obtain ⟨hfile, readAnswer, document, hread, hedited⟩ := hreached
    split at hstep
    · rename_i detail
      obtain ⟨rfl, rfl⟩ := Prod.mk.inj (Option.some.inj hstep)
      let io : ManagedIo := ⟨readAnswer, .error detail, torn, .ok (), nanos⟩
      have hread' : readDocument format io path disk = .ok document :=
        (readDocument_congr io (readIo readAnswer) rfl).trans hread
      refine ⟨io, ?_⟩
      rw [perform_of_edited hread' hedited, hfile]
      rfl
    · obtain ⟨rfl, rfl⟩ := Prod.mk.inj (Option.some.inj hstep)
      exact ⟨by rw [hfile], readAnswer, document, hread, hedited⟩
  · -- and put in the place of the file
    rename_i content disk₁ answer
    obtain ⟨rfl, readAnswer, document, hread, hedited⟩ := hreached
    let io : ManagedIo := ⟨readAnswer, .ok (), .absent, answer, 0⟩
    have hread' : readDocument format io path disk = .ok document :=
      (readDocument_congr io (readIo readAnswer) rfl).trans hread
    split at hstep
    · rename_i detail
      obtain ⟨rfl, rfl⟩ := Prod.mk.inj (Option.some.inj hstep)
      refine ⟨io, ?_⟩
      rw [perform_of_edited hread' hedited]
      rfl
    · obtain ⟨rfl, rfl⟩ := Prod.mk.inj (Option.some.inj hstep)
      refine ⟨io, ?_⟩
      rw [perform_of_edited hread' hedited]
      rfl
  · exact nomatch hstep

/-- The document that a call makes of another. -/
def Changes (path : PathBuf) (call : StoreCall) (document document' : Toml) : Prop :=
  match call with
  | .replaceConfig pluginId config => replaceDocument pluginId path config document = .ok document'
  | .patchProductSurface fields _ => patchDocument fields document = .ok document'

/-- A call leaves the file alone or writes the changed document. -/
theorem perform_cases (format : TomlFormat) (path : PathBuf) (io : ManagedIo) (disk : SecretDisk)
    (call : StoreCall) :
    (∃ e, (perform format path io disk call).outcome = .error e ∧
      (perform format path io disk call).disk.file = disk.file) ∨
    ∃ document document' text, Holds format disk document ∧ Changes path call document document' ∧
      format.print document' = .ok text ∧
      (perform format path io disk call).outcome = .ok () ∧
      (perform format path io disk call).disk.file = .file text := by
  cases call with
  | replaceConfig pluginId config =>
      obtain hfailed | ⟨content, document, document', text, hfile, hparse, hreplace, hprint, hok,
        hnew⟩ := replaceConfig_cases format io path disk pluginId config
      · exact .inl hfailed
      · exact .inr ⟨document, document', text, ⟨content, hfile, hparse⟩, hreplace, hprint,
          hok, hnew⟩
  | patchProductSurface fields =>
      obtain ⟨e, hfailed, hsame⟩ | ⟨document, document', text, hholds, hpatch, hprint, hok⟩ :=
        patchProductSurface_cases format io path disk fields
      · refine .inl ⟨e, ?_, hsame⟩
        show Outcome.ofExcept (patchProductSurface format io path disk fields).result = _
        rw [hfailed]
        rfl
      · refine .inr ⟨document, document', text, hholds, hpatch, hprint, ?_, ?_⟩
        · show Outcome.ofExcept (patchProductSurface format io path disk fields).result = _
          rw [hok]
          rfl
        · show (patchProductSurface format io path disk fields).disk.file = _
          rw [hok]

end Perform

/-! ## Calls beside each other -/

section Together

variable {format : TomlFormat} {path : PathBuf} {disk disk₀ disk₁ : SecretDisk} {call : StoreCall}
  {s : System SecretDisk StoreCall Stage (Outcome Unit)}

/-- Whole calls one after the other, with the outcomes they had. -/
def InTurn (format : TomlFormat) (path : PathBuf) :
    SecretDisk → List (StoreCall × Outcome Unit) → SecretDisk → Prop
  | disk, [], disk' => disk' = disk
  | disk, (call, outcome) :: log, disk' =>
      ∃ io, (perform format path io disk call).outcome = outcome ∧
      InTurn format path (perform format path io disk call).disk log disk'

theorem InTurn.concat {log : List (StoreCall × Outcome Unit)} {io : ManagedIo}
    {outcome : Outcome Unit} (h : InTurn format path disk log disk₀)
    (hlast : perform format path io disk₀ call = ⟨outcome, disk₁⟩) :
    InTurn format path disk (log ++ [(call, outcome)]) disk₁ := by
  induction log generalizing disk with
  | nil =>
      obtain rfl : disk₀ = disk := h
      exact ⟨io, by rw [hlast], by rw [hlast]; rfl⟩
  | cons entry log ih =>
      obtain ⟨io', houtcome, hrest⟩ := h
      exact ⟨io', houtcome, ih hrest⟩

/-- A call that has returned has an outcome of the whole. -/
theorem perform_of_alone {stage : Stage} {outcome : Outcome Unit}
    (h : Alone (store format path) call disk stage disk₁)
    (hresult : (store format path).result stage = some outcome) :
    ∃ io, perform format path io disk call = ⟨outcome, disk₁⟩ := by
  cases stage with
  | done outcome' =>
      obtain rfl : outcome' = outcome := Option.some.inj hresult
      exact reached_of_alone h
  | reading | writing | replacing => exact nomatch hresult

theorem inTurn_of_serial {log : List (StoreCall × Outcome Unit)}
    (h : Serial (store format path) disk log disk₁) : InTurn format path disk log disk₁ := by
  induction h with
  | nil => rfl
  | concat _ halone hresult ih =>
      obtain ⟨io, hperform⟩ := perform_of_alone halone hresult
      exact ih.concat hperform

theorem not_panicked_of_inTurn {log : List (StoreCall × Outcome Unit)}
    (h : InTurn format path disk log disk₁) : ∀ entry ∈ log, entry.2 ≠ .panicked := by
  induction log generalizing disk with
  | nil => exact List.forall_mem_nil _
  | cons entry log ih =>
      obtain ⟨io, houtcome, hrest⟩ := h
      refine List.forall_mem_cons.mpr ⟨fun hpanic => ?_, ih hrest⟩
      obtain ⟨e, he, -⟩ | ⟨-, -, -, -, -, -, hok, -⟩ := perform_cases format path io disk entry.1
      · exact nomatch (he.symm.trans houtcome).trans hpanic
      · exact nomatch (hok.symm.trans houtcome).trans hpanic

/-- What holds of the file and the calls. -/
structure StoreLaw (format : TomlFormat) (path : PathBuf) (disk₀ : SecretDisk)
    (s : System SecretDisk StoreCall Stage (Outcome Unit)) : Prop where
  /-- the history is that of the calls that have returned, once each, -/
  answered : ∀ (k : Nat) (call : StoreCall) (outcome : Outcome Unit),
    (⟨k, call, outcome⟩ ∈ s.history ↔ s.calls[k]? = some ⟨call, .returned outcome⟩)
  once : (s.history.map Answer.call).Nodup
  /-- none of them by a panic, -/
  no_panic : ∀ answer ∈ s.history, answer.result ≠ .panicked
  /-- and a call comes after those that returned before it began -/
  real_time : ∀ es s', Trace (step (store format path)) s es s' → s.history <+: s'.history
  /-- the file is as these calls leave it one after the other, or as the call
      with the lock will leave it -/
  in_turn : ∃ disk, InTurn format path disk₀ s.log disk ∧
    ((∀ call ∈ s.calls, call.holds = false) → s.shared = disk) ∧
    (s.shared.file = disk.file ∨ ∃ (k : Nat) (call : StoreCall) (stage : Stage) (io : ManagedIo),
      s.calls[k]? = some ⟨call, .inside stage⟩ ∧
      (perform format path io disk call).outcome = .ok () ∧
      s.shared.file = (perform format path io disk call).disk.file)

/-- The file is as the calls that returned leave it one after the other, or as the
    call with the lock will leave it. -/
theorem inTurn_of_reaches (h : Reaches (step (store format path)) Free (.init disk₀) s) :
    ∃ disk, InTurn format path disk₀ s.log disk ∧
      ((∀ call ∈ s.calls, call.holds = false) → s.shared = disk) ∧
      (s.shared.file = disk.file ∨ ∃ (k : Nat) (call : StoreCall) (stage : Stage) (io : ManagedIo),
        s.calls[k]? = some ⟨call, .inside stage⟩ ∧
        (perform format path io disk call).outcome = .ok () ∧
        s.shared.file = (perform format path io disk call).disk.file) := by
  obtain ⟨disk, hserial, hfree, hinside⟩ := (serializable h).serial
  refine ⟨disk, inTurn_of_serial hserial, hfree, ?_⟩
  by_cases hnone : ∀ call ∈ s.calls, call.holds = false
  · exact .inl (by rw [hfree hnone])
  · obtain ⟨⟨call, phase⟩, hmem, hholds⟩ : ∃ call ∈ s.calls, call.holds ≠ false := by
      simpa using hnone
    obtain ⟨k, hk⟩ := List.mem_iff_getElem?.mp hmem
    cases phase with
    | waiting | returned => exact absurd rfl hholds
    | inside stage =>
        have hreached := reached_of_alone (hinside k call stage hk)
        cases stage with
        | reading => exact .inl (by rw [hreached.2])
        | writing => exact .inl hreached.1
        | replacing => exact .inl (by rw [hreached.1])
        | done outcome =>
            obtain ⟨io, hperform⟩ := hreached
            obtain ⟨e, -, hsame⟩ | ⟨-, -, -, -, -, -, hok, -⟩ :=
              perform_cases format path io disk call
            · rw [hperform] at hsame
              exact .inl hsame
            · exact .inr ⟨k, call, _, io, hk, hok, by rw [hperform]⟩

/-- **THE LAW OF THE STORE**, in every state of every interleaving of its calls;
    a process that stops leaves one of these states. -/
theorem store_law (h : Reaches (step (store format path)) Free (.init disk₀) s) :
    StoreLaw format path disk₀ s := by
  have hs := serializable h
  obtain ⟨disk, hturn, hrest⟩ := inTurn_of_reaches h
  refine ⟨hs.answered, hs.once, fun answer hanswer => ?_, fun es s' => history_prefix,
    disk, hturn, hrest⟩
  exact not_panicked_of_inTurn hturn _ (List.mem_map.mpr ⟨answer, hanswer, rfl⟩)

/-- Two calls; the second waits while the first is at work, and then cannot
    write. -/
def storeRun : List (Event StoreCall Io) :=
  [.call (.replaceConfig "mutsuki.bot.bilibili" (.object [("mode", .string "live")])), .enter 0,
    .call (.replaceConfig "other.plugin" .null), .inner 0 (.read (.ok ())),
    .inner 0 (.tear (.file "[[plu")), .inner 0 (.write (.ok ()) .absent 7),
    .inner 0 (.rename (.ok ())), .leave 0, .enter 1, .inner 1 (.read (.ok ())), .leave 1]

/-- The store after that. -/
def storeState : System SecretDisk StoreCall Stage (Outcome Unit) :=
  (run (step (store productFormat ⟨true, ["srv", "local.toml"]⟩)) Free
    (.init ⟨.file (productText "kept"), .absent⟩) storeRun).getD (.init ⟨.absent, .absent⟩)

theorem store_law_two : StoreLaw productFormat ⟨true, ["srv", "local.toml"]⟩
    ⟨.file (productText "kept"), .absent⟩ storeState :=
  store_law (reaches_getD (by decide +kernel))

end Together

/-! ## The file as a map -/

section Settings

variable {format : TomlFormat} {path : PathBuf} {disk disk₀ disk₁ : SecretDisk} {call : StoreCall}
  {document document' : Toml}

/-- What can be set. -/
inductive Slot where
  | plugin (pluginId : String)
  | field (target : SurfaceField)

/-- The value that a call gives a slot. -/
def writes : StoreCall → Slot → Option Value
  | .replaceConfig pluginId config, .plugin id =>
      if trim id = trim pluginId then some config else none
  | .patchProductSurface fields _, .field target => fields.lookup target.name
  | .replaceConfig _ _, .field _ | .patchProductSurface _ _, .plugin _ => none

/-- What an entry of the history writes. -/
def entryWrites (entry : StoreCall × Outcome Unit) (slot : Slot) : Option Value :=
  match entry.2 with
  | .ok () => writes entry.1 slot
  | .error _ | .panicked => none

/-- The value that a slot has last been given by a call that succeeded. -/
def written : List (StoreCall × Outcome Unit) → Slot → Option Value
  | [], _ => none
  | entry :: log, slot => (written log slot).or (entryWrites entry slot)

/-- The document has this value in the slot. -/
def Reads (document : Toml) : Slot → Value → Prop
  | .plugin pluginId, value =>
      ∃ configured index item, Selected document pluginId configured index ∧
      jsonToToml value = .ok item ∧ document.at (configPlace index) = some item
  | .field target, value => ∃ item, target.accepts value = some item ∧
      document.at (keys target.place) = some item

/-- No call sets anything at this place, above it or below it. -/
def Beside (place : List Label) : Prop :=
  (∀ index, TreePath.Apart (configPlace index) place) ∧
    ∀ target : SurfaceField, TreePath.Apart (keys target.place) place

theorem idMatches_congr {pluginId pluginId' : String} (h : trim pluginId = trim pluginId')
    (selection : Toml) : idMatches pluginId selection = idMatches pluginId' selection := by
  rw [idMatches, idMatches]
  split
  · rw [h]
  · rfl

theorem selected_congr {pluginId pluginId' : String} {configured : List Toml} {index : Nat}
    (htrim : trim pluginId = trim pluginId') (h : Selected document pluginId configured index) :
    Selected document pluginId' configured index where
  array := h.array
  only j := by
    rw [← h.only j]
    simp only [idMatches_congr htrim]

/-- A selection has one id. -/
theorem trim_eq_of_idMatches {pluginId pluginId' : String} {selection : Toml}
    (h : idMatches pluginId selection = true) (h' : idMatches pluginId' selection = true) :
    trim pluginId = trim pluginId' := by
  rw [idMatches] at h h'
  split at h
  · rename_i id hid
    rw [hid] at h'
    exact (of_decide_eq_true h).symm.trans (of_decide_eq_true h')
  · cases h

/-- The replaced document. -/
theorem replaceDocument_ok_inv {pluginId : String} {config : Value}
    (h : replaceDocument pluginId path config document = .ok document') :
    ∃ root plugins configured selection index value, document = .table root ∧
      root.lookup "plugins" = some (.table plugins) ∧
      plugins.lookup "configured" = some (.array configured) ∧
      matchingIndices pluginId configured = [index] ∧ jsonToToml config = .ok value ∧
      configured[index]? = some (.table selection) ∧
      document' = withConfig index value root plugins configured selection := by
  unfold replaceDocument at h
  split at h
  · rename_i root
    split at h
    · rename_i plugins hplugins
      split at h
      · rename_i configured hconfigured
        split at h
        · rename_i index hindex
          split at h
          · cases h
          · rename_i value hvalue
            split at h
            · rename_i selection hselection
              exact ⟨root, plugins, configured, selection, index, value, rfl, hplugins, hconfigured,
                hindex, hvalue, hselection, (Outcome.ok.inj h).symm⟩
            · cases h
        · cases h
      · cases h
    · cases h
  · cases h

section WithConfig

variable {index : Nat} {value : Toml} {root plugins selection : List (String × Toml)}
  {configured : List Toml}

/-- A new configuration leaves the selections where they are. -/
theorem withConfig_array :
    (withConfig index value root plugins configured selection).at [.key "plugins", .key "configured"]
      = some (.array (configured.set index (.table (insertKey "config" value selection)))) := by
  rw [withConfig, at_insertKey, at_insertKey]
  rfl

theorem idMatches_insertKey (pluginId : String) :
    idMatches pluginId (.table (insertKey "config" value selection))
      = idMatches pluginId (.table selection) := by
  have hget : (Toml.table (insertKey "config" value selection)).get "id"
      = (Toml.table selection).get "id" := by
    show (insertKey "config" value selection).lookup "id" = selection.lookup "id"
    rw [lookup_insertKey, if_neg (by decide)]
  rw [idMatches, idMatches, hget]

/-- **THE SELECTIONS** stay selected. -/
theorem selected_withConfig (value : Toml) {pluginId : String} {found : List Toml} {j : Nat}
    (hselection : configured[index]? = some (.table selection))
    (harray : (Toml.table root).at [.key "plugins", .key "configured"] = some (.array configured))
    (h : Selected (.table root) pluginId found j) :
    ∃ found', Selected (withConfig index value root plugins configured selection)
      pluginId found' j := by
  obtain rfl : found = configured := Toml.array.inj (Option.some.inj (h.array.symm.trans harray))
  refine ⟨_, withConfig_array, fun i => ?_⟩
  rw [← h.only i]
  by_cases hi : index = i
  · subst hi
    have hlt := ListUpdate.lt_length_of_getElem? hselection
    rw [List.getElem?_set_self hlt, hselection]
    simp [idMatches_insertKey]
  · rw [List.getElem?_set_ne hi]

end WithConfig

/-- Places that begin with different keys. -/
theorem apart_of_key {key key' : String} (h : key ≠ key') (p q : List Label) :
    TreePath.Apart (.key key :: p) (.key key' :: q) := by
  constructor
  · exact fun hprefix => h (Label.key.inj (List.cons_prefix_cons.mp hprefix).1)
  · exact fun hprefix => h (Label.key.inj (List.cons_prefix_cons.mp hprefix).1).symm

theorem place_apart_plugins (target : SurfaceField) (q : List Label) :
    TreePath.Apart (keys target.place) (.key "plugins" :: q) := by
  cases target <;> exact apart_of_key (by decide) _ _

theorem configPlace_apart {index j : Nat} (h : index ≠ j) :
    TreePath.Apart (configPlace index) (configPlace j) := by
  constructor <;> intro hprefix <;> simp [configPlace] at hprefix <;> omega

/-- What a call that changes the document does to the slots. -/
structure Sets (call : StoreCall) (document document' : Toml) : Prop where
  set : ∀ (slot : Slot) (value : Value), writes call slot = some value → Reads document' slot value
  kept : ∀ (slot : Slot) (value : Value), writes call slot = none → Reads document slot value →
    Reads document' slot value
  beside : ∀ place, Beside place → document'.at place = document.at place

/-- **A REPLACED CONFIGURATION** sets the slot of its plugin. -/
theorem sets_replaceConfig {pluginId : String} {config : Value}
    (h : replaceDocument pluginId path config document = .ok document') :
    Sets (.replaceConfig pluginId config) document document' := by
  obtain ⟨root, plugins, configured, selection, index, value, rfl, hplugins, hconfigured, hindex,
    hvalue, hselection, rfl⟩ := replaceDocument_ok_inv h
  have harray :
    (Toml.table root).at [.key "plugins", .key "configured"] = some (.array configured) :=
    at_configured_iff.mpr ⟨root, plugins, rfl, hplugins, hconfigured⟩
  have hselected : Selected (.table root) pluginId configured index :=
    ⟨harray, matchingIndices_eq_singleton_iff.mp hindex⟩
  have hoff : SameOff [configPlace index] (.table root)
      (withConfig index value root plugins configured selection) :=
    withConfig_sameOff hplugins hconfigured hselection
  refine ⟨fun slot value' hwrites => ?_, fun slot value' hwrites hreads => ?_,
    fun place hplace => ?_⟩
  · cases slot with
    | field target => exact nomatch hwrites
    | plugin id =>
        obtain ⟨htrim, hsome⟩ := Option.ite_none_right_eq_some.mp hwrites
        rw [← Option.some.inj hsome]
        obtain ⟨found, hfound⟩ := selected_withConfig value hselection harray
          (selected_congr htrim.symm hselected)
        exact ⟨found, index, value, hfound, hvalue, withConfig_at hselection⟩
  · cases slot with
    | field target =>
        obtain ⟨item, haccepts, hat⟩ := hreads
        refine ⟨item, haccepts, (hoff _ ?_).trans hat⟩
        rw [List.forall_mem_singleton]
        exact (place_apart_plugins target _).symm
    | plugin id =>
        obtain ⟨found, j, item, hfound, hitem, hat⟩ := hreads
        obtain ⟨found', hfound'⟩ := selected_withConfig value hselection harray hfound
        refine ⟨found', j, item, hfound', hitem, (hoff _ ?_).trans hat⟩
        rw [List.forall_mem_singleton]
        refine configPlace_apart fun hsame => ?_
        -- one selection would have both ids
        obtain ⟨here, hhere, hmatch⟩ := (hfound.only j).mpr rfl
        obtain ⟨there, hthere, hmatch'⟩ := (hselected.only index).mpr rfl
        obtain rfl : found = configured :=
          Toml.array.inj (Option.some.inj (hfound.array.symm.trans harray))
        rw [hsame] at hthere
        obtain rfl := Option.some.inj (hhere.symm.trans hthere)
        have htrim := trim_eq_of_idMatches hmatch hmatch'
        simp [writes, htrim] at hwrites
  · refine hoff place ?_
    rw [List.forall_mem_singleton]
    exact hplace.1 index

/-- The edits of a patch leave every place beside them. -/
theorem at_patched {fields : List (String × Value)} {entries : List (String × Toml)}
    {edits : List (SurfaceField × Toml)} (h : SettableAll (.table entries) fields edits)
    {place : List Label} (hplace : ∀ edit ∈ edits, TreePath.Apart (keys edit.1.place) place) :
    (applyEdits edits (.table entries)).at place = (Toml.table entries).at place := by
  have hopen : ∀ edit ∈ edits, TablesOpen (.table entries) edit.1 := by
    intro edit hedit
    obtain ⟨field, -, hset⟩ := h.mem_edit hedit
    exact hset.2.2
  obtain ⟨entries', happly, -, hoff⟩ := applyEdits_table hopen
  rw [happly]
  refine hoff place fun p hp => ?_
  obtain ⟨edit, hedit, rfl⟩ := List.mem_map.mp hp
  exact hplace edit hedit

theorem keys_apart {target target' : SurfaceField} (h : target ≠ target') :
    TreePath.Apart (keys target.place) (keys target'.place) := by
  cases target <;> cases target' <;> first
    | exact absurd rfl h
    | (constructor <;> decide)

/-- A field is set in a table only. -/
theorem refused_of_no_table (h : ∀ entries, document ≠ .table entries) (field : String)
    (value : Value) : ∃ e, applyProductSurfaceField document field value = .error e := by
  have hkey : ∀ key detail, withKey document key detail
      = .error (.invalidProductSurfaceValue key detail) := by
    intro key detail
    cases document with
    | table entries => exact absurd rfl (h entries)
    | string _ | integer _ | float _ | boolean _ | datetime _ | array _ => rfl
  have htable : ∀ name item, ∃ e, ensureTable document "service" name item = .error e := by
    intro name item
    rw [ensureTable, hkey]
    exact ⟨_, rfl⟩
  have hnested : ∀ name item, ∃ e, ensureNestedTable document ["web", "console"] name item
      = .error e := by
    intro name item
    rw [ensureNestedTable, hkey]
    exact ⟨_, rfl⟩
  unfold applyProductSurfaceField
  split
  case h_1 | h_2 | h_3 | h_8 => exact ⟨_, rfl⟩
  case h_4 =>
    split
    · exact ⟨_, rfl⟩
    · exact htable _ _
  case h_5 | h_6 | h_7 =>
    split
    · exact ⟨_, rfl⟩
    · exact hnested _ _

theorem table_of_patched {first : String × Value} {rest : List (String × Value)}
    (h : patchDocument (first :: rest) document = .ok document') :
    ∃ entries, document = .table entries := by
  by_contra hnone
  obtain ⟨e, he⟩ := refused_of_no_table (fun entries heq => hnone ⟨entries, heq⟩) first.1 first.2
  rw [patchDocument, he] at h
  cases h

/-- **A PATCH** sets the slots of its fields. -/
theorem sets_patchProductSurface {fields : List (String × Value)} (sorted : Ascending fields)
    (h : patchDocument fields document = .ok document') :
    Sets (.patchProductSurface fields sorted) document document' := by
  cases fields with
  | nil =>
      obtain rfl : document = document' := Except.ok.inj h
      refine ⟨fun slot value hwrites => ?_, fun _ _ _ hreads => hreads, fun _ _ => rfl⟩
      cases slot <;> exact nomatch hwrites
  | cons first rest =>
      obtain ⟨entries, rfl⟩ := table_of_patched h
      obtain ⟨edits, hedits, rfl⟩ := patchDocument_ok_inv h
      refine ⟨fun slot value hwrites => ?_, fun slot value hwrites hreads => ?_,
        fun place hplace => ?_⟩
      · cases slot with
        | plugin id => exact nomatch hwrites
        | field target =>
            have hkeys : ((first :: rest).map Prod.fst).Nodup :=
              List.pairwise_map.mpr (sorted.imp fun hlt => ne_of_lt hlt)
            have hmem := (ListUpdate.lookup_eq_some_iff hkeys).mp hwrites
            obtain ⟨⟨target', item⟩, hedit, hname, haccepts, -⟩ :=
              ListUpdate.exists_partner hedits hmem
            obtain rfl := SurfaceField.name_injective hname
            refine ⟨item, haccepts, ?_⟩
            rw [← applyEdits_put (hedits.nodup sorted) hedit]
            exact put_at _ _ _
      · cases slot with
        | plugin id =>
            obtain ⟨found, j, item, hfound, hitem, hat⟩ := hreads
            have hsame : ∀ q, (applyEdits edits (.table entries)).at (.key "plugins" :: q)
                = (Toml.table entries).at (.key "plugins" :: q) := fun q =>
              at_patched hedits fun edit _ => place_apart_plugins edit.1 q
            exact ⟨found, j, item, ⟨(hsame _).trans hfound.array, hfound.only⟩, hitem,
              (hsame _).trans hat⟩
        | field target =>
            obtain ⟨item, haccepts, hat⟩ := hreads
            refine ⟨item, haccepts, (at_patched hedits fun edit hedit => ?_).trans hat⟩
            refine keys_apart fun hsame => ?_
            obtain ⟨given, hgiven, hname, -⟩ := hedits.mem_edit hedit
            rw [hsame] at hname
            have habsent := List.lookup_eq_none_iff.mp hwrites given hgiven
            simp [hname] at habsent
      · exact at_patched hedits fun edit _ => hplace.2 edit.1

/-- A call that changes a document sets its slots. -/
theorem Changes.sets (h : Changes path call document document') : Sets call document document' := by
  cases call with
  | replaceConfig pluginId config => exact sets_replaceConfig h
  | patchProductSurface fields sorted => exact sets_patchProductSurface sorted h

/-! ### Calls in turn -/

/-- The document after some calls, as a map: each slot has the value that it was
    last given, or that it had. -/
structure Settled (log : List (StoreCall × Outcome Unit)) (document document' : Toml) : Prop where
  set : ∀ (slot : Slot) (value : Value), written log slot = some value → Reads document' slot value
  kept : ∀ (slot : Slot) (value : Value), written log slot = none → Reads document slot value →
    Reads document' slot value
  beside : ∀ place, Beside place → document'.at place = document.at place

/-- **ONE MORE CALL** at the beginning, which succeeds or changes nothing. -/
theorem Settled.cons {log : List (StoreCall × Outcome Unit)} {outcome : Outcome Unit}
    {document'' : Toml} (h : Settled log document' document'')
    (hfirst : (outcome = .ok () ∧ Sets call document document') ∨
      ((∃ e, outcome = .error e) ∧ document' = document)) :
    Settled ((call, outcome) :: log) document document'' := by
  have hslot : ∀ slot : Slot, (∀ value, entryWrites (call, outcome) slot = some value →
      Reads document' slot value) ∧ (∀ value, entryWrites (call, outcome) slot = none →
      Reads document slot value → Reads document' slot value) := by
    intro slot
    obtain ⟨rfl, hsets⟩ | ⟨⟨e, rfl⟩, rfl⟩ := hfirst
    · exact ⟨hsets.set slot, hsets.kept slot⟩
    · exact ⟨nofun, fun value _ hreads => hreads⟩
  have hbeside : ∀ place, Beside place → document'.at place = document.at place := by
    obtain ⟨-, hsets⟩ | ⟨-, rfl⟩ := hfirst
    · exact hsets.beside
    · exact fun _ _ => rfl
  refine ⟨fun slot value hwritten => ?_, fun slot value hwritten hreads => ?_, fun place hplace =>
    (h.beside place hplace).trans (hbeside place hplace)⟩
  · rw [written] at hwritten
    cases hlater : written log slot with
    | some later =>
        rw [hlater, Option.some_or] at hwritten
        exact h.set slot value (hlater.trans hwritten)
    | none =>
        rw [hlater, Option.none_or] at hwritten
        exact h.kept slot value hlater ((hslot slot).1 value hwritten)
  · rw [written, Option.or_eq_none_iff] at hwritten
    exact h.kept slot value hwritten.1 ((hslot slot).2 value hwritten.2 hreads)

/-- What is printed is read back. -/
def TomlFormat.RoundTrips (format : TomlFormat) : Prop :=
  ∀ document text, format.print document = .ok text → format.parse text = .ok document

theorem settled_of_inTurn (hformat : TomlFormat.RoundTrips format)
    {log : List (StoreCall × Outcome Unit)} (h : InTurn format path disk log disk₁)
    (hdocument : Holds format disk document) :
    ∃ document', Holds format disk₁ document' ∧ Settled log document document' := by
  induction log generalizing disk document with
  | nil =>
      obtain rfl : disk₁ = disk := h
      exact ⟨document, hdocument, nofun, fun _ _ _ hreads => hreads, fun _ _ => rfl⟩
  | cons entry log ih =>
      obtain ⟨call, outcome⟩ := entry
      obtain ⟨io, houtcome, hrest⟩ := h
      obtain ⟨e, he, hsame⟩ | ⟨found, changed, text, hfound, hchanges, hprint, hok, hfile⟩ :=
        perform_cases format path io disk call
      · have hstill : Holds format (perform format path io disk call).disk document := by
          obtain ⟨content, hcontent, hparse⟩ := hdocument
          exact ⟨content, hsame.trans hcontent, hparse⟩
        obtain ⟨document', hholds, hsettled⟩ := ih hrest hstill
        exact ⟨document', hholds, hsettled.cons (.inr ⟨⟨e, houtcome.symm.trans he⟩, rfl⟩)⟩
      · obtain rfl := hfound.unique hdocument
        obtain ⟨document', hholds, hsettled⟩ := ih hrest ⟨text, hfile, hformat changed text hprint⟩
        exact ⟨document', hholds, hsettled.cons (.inl ⟨houtcome.symm.trans hok, hchanges.sets⟩)⟩

/-- **NO UPDATE IS LOST**: in every state of every interleaving of calls the file
    is a document in which each plugin and each surface field has the value that
    the last successful call for it gave it, and everything that no call sets is
    as it was.  While a call has the lock, it may be the last of these. -/
theorem settings_law (hformat : TomlFormat.RoundTrips format)
    (hdocument : Holds format disk₀ document)
    {s : System SecretDisk StoreCall Stage (Outcome Unit)}
    (h : Reaches (step (store format path)) Free (.init disk₀) s) :
    ∃ log document', Holds format s.shared document' ∧ Settled log document document' ∧
      (log = s.log ∨ ∃ (k : Nat) (call : StoreCall) (stage : Stage),
        s.calls[k]? = some ⟨call, .inside stage⟩ ∧ log = s.log ++ [(call, .ok ())]) := by
  obtain ⟨disk, hturn, -, hfile | ⟨k, call, stage, io, hk, hok, hfile⟩⟩ := inTurn_of_reaches h
  · obtain ⟨document', ⟨content, hcontent, hparse⟩, hsettled⟩ :=
      settled_of_inTurn hformat hturn hdocument
    exact ⟨s.log, document', ⟨content, hfile.trans hcontent, hparse⟩, hsettled, .inl rfl⟩
  · have hlast : perform format path io disk call
        = ⟨.ok (), (perform format path io disk call).disk⟩ := by
      rw [← hok]
    obtain ⟨document', ⟨content, hcontent, hparse⟩, hsettled⟩ :=
      settled_of_inTurn hformat (hturn.concat hlast) hdocument
    exact ⟨_, document', ⟨content, hfile.trans hcontent, hparse⟩, hsettled,
      .inr ⟨k, call, stage, hk, rfl⟩⟩

/-- `toml` on product files with one of two modes. -/
def modeFormat : TomlFormat where
  parse := productFormat.parse
  print document :=
    match document with
    | .table [("plugins", .table [("configured", .array [
        .table [("config", .table [("mode", .string mode)]), ("id", .string "mutsuki.bot.bilibili")],
        .table [("id", .string "other.plugin")]])])] =>
        if mode = "kept" ∨ mode = "live" then .ok (productText mode) else .error "unsupported value"
    | _ => .error "unsupported value"

theorem modeFormat_kept : modeFormat.parse (productText "kept") = .ok (productDocument "kept") := by
  simp only [modeFormat, productFormat, if_true]

theorem modeFormat_roundTrips : TomlFormat.RoundTrips modeFormat := by
  intro document text h
  simp only [modeFormat] at h
  split at h
  · split at h
    · rename_i hmode
      rw [← Except.ok.inj h]
      obtain rfl | rfl := hmode
      · exact modeFormat_kept
      · have hne : productText "live" ≠ productText "kept" := by decide
        simp only [modeFormat, productFormat, if_neg hne, if_true]
        rfl
    · exact nomatch h
  · exact nomatch h

/-- The state of `storeRun` on such files. -/
def modeState : System SecretDisk StoreCall Stage (Outcome Unit) :=
  (run (step (store modeFormat ⟨true, ["srv", "local.toml"]⟩)) Free
    (.init ⟨.file (productText "kept"), .absent⟩) storeRun).getD (.init ⟨.absent, .absent⟩)

theorem settings_law_two :
    ∃ log document', Holds modeFormat modeState.shared document' ∧
      Settled log (productDocument "kept") document' ∧
      (log = modeState.log ∨ ∃ (k : Nat) (call : StoreCall) (stage : Stage),
        modeState.calls[k]? = some ⟨call, .inside stage⟩ ∧
        log = modeState.log ++ [(call, .ok ())]) := by
  have hkept : Holds modeFormat ⟨.file (productText "kept"), .absent⟩ (productDocument "kept") :=
    ⟨_, rfl, modeFormat_kept⟩
  exact settings_law modeFormat_roundTrips hkept (reaches_getD (by decide +kernel))

end Settings

end ServiceStore
