import Std.Data.ExtTreeMap.Lemmas
import MutsukiServiceHost.ServiceLoaderProofs
import MutsukiServiceHost.TransitionProofs

/-! # The runner supervisor

    `RunnerSupervisor` starts, stops and reconciles the processes of sidecar
    plugins.  Its mutex is held over a whole operation, so an operation is one
    step; what the processes and the environment do while it runs are the
    `Answers`, and the future of the operation may be dropped wherever it
    waits for a process.

    A runner that is recorded as running is to own a child.  `stop_child` takes
    the child first and records the new state last: the file says between which
    answers that goes wrong, and that it does not otherwise. -/

namespace ServiceSupervisor

open Transition
open ServiceLoad (PathBuf)
open ServiceLoader (ExternalRuntimeSpec)

/-! ## Runners -/

/-- `ManagedRunnerSpec`. -/
structure ManagedRunnerSpec where
  runnerId : String
  pluginId : String
  runtime : ExternalRuntimeSpec
  envAllowlist : List String
  serviceHome : PathBuf
  sessionToken : String
  deriving DecidableEq, Repr

/-- `RunnerProcessState`. -/
inductive RunnerProcessState where
  | running
  | exited (code : Int)
  | failed
  | stopped
  deriving DecidableEq, Repr

/-- A handle of a process. -/
structure Child where
  pid : Nat
  deriving DecidableEq, Repr

/-- `ManagedRunner`. -/
structure ManagedRunner where
  spec : ManagedRunnerSpec
  child : Option Child
  state : RunnerProcessState
  restarts : UInt32
  lastError : Option String
  deriving DecidableEq, Repr

/-- `SupervisorState::runners`. -/
abbrev Runners := Std.ExtTreeMap String ManagedRunner compare

/-- `RunnerSupervisorError`. -/
inductive RunnerSupervisorError where
  | alreadyRunning (runnerId : String)
  | unknownRunner (runnerId : String)
  | spawn (runnerId detail : String)
  | stop (runnerId detail : String)
  deriving DecidableEq, Repr

/-- `RunnerSnapshot`. -/
structure RunnerSnapshot where
  runnerId : String
  pluginId : String
  state : RunnerProcessState
  pid : Option Nat
  restarts : UInt32
  lastError : Option String
  deriving DecidableEq, Repr

/-! ## Answers of the processes -/

/-- `Child::try_wait` in `refresh_runner`. -/
inductive TryWait where
  | exited (code : Option Int)
  | running
  | failed (detail : String)
  deriving DecidableEq, Repr

/-- What `stop_child` meets on a child. -/
inductive StopAnswer where
  /-- it has ended before -/
  | exited
  /-- it ends, or the wait fails, within the time -/
  | waited
  /-- the time is over and it is killed -/
  | killed
  /-- the time is over and it cannot be killed -/
  | killFailed (detail : String)
  /-- the future is dropped at `wait` or `kill` -/
  | dropped
  deriving DecidableEq, Repr

/-- The answers during one operation, by runner id. -/
structure Answers where
  tryWait : String → TryWait
  stop : String → StopAnswer
  spawn : String → Except String Child

/-! ## Single runners -/

/-- `refresh_runner`. -/
def refreshRunner (answer : TryWait) (runner : ManagedRunner) : ManagedRunner :=
  match runner.child with
  | none => runner
  | some _ =>
      match answer with
      | .exited code => { runner with state := .exited (code.getD (-1)), child := none }
      | .running => { runner with state := .running }
      -- the child is kept
      | .failed detail => { runner with state := .failed, lastError := some detail }

/-- How `stop_child` ends. -/
inductive StopEnd where
  | ok
  | failed (error : RunnerSupervisorError)
  | dropped
  deriving DecidableEq, Repr

/-- `stop_child`: the child is taken before anything can fail. -/
def stopChild (answer : StopAnswer) (runner : ManagedRunner) : ManagedRunner × StopEnd :=
  match runner.child with
  | none => ({ runner with state := .stopped }, .ok)
  | some _ =>
      match answer with
      | .exited | .waited | .killed => ({ runner with child := none, state := .stopped }, .ok)
      -- the state stays what it was
      | .killFailed detail =>
          ({ runner with child := none }, .failed (.stop runner.spec.runnerId detail))
      | .dropped => ({ runner with child := none }, .dropped)

/-- A runner that has just been spawned. -/
def spawned (spec : ManagedRunnerSpec) (child : Child) : ManagedRunner :=
  ⟨spec, some child, .running, 0, none⟩

/-- `snapshot_runner`. -/
def snapshotRunner (runner : ManagedRunner) : RunnerSnapshot where
  runnerId := runner.spec.runnerId
  pluginId := runner.spec.pluginId
  state := runner.state
  pid := runner.child.map (·.pid)
  restarts := runner.restarts
  lastError := runner.lastError

/-! ## Operations -/

/-- How an operation ends: with its result, or its future is dropped. -/
inductive Ended (α : Type) where
  | finished (result : α)
  | dropped
  deriving DecidableEq, Repr

/-- The result of an operation that can fail. -/
abbrev Answer := Ended (Except RunnerSupervisorError Unit)

/-- `RunnerSupervisor::start`. -/
def start (answers : Answers) (runners : Runners) (spec : ManagedRunnerSpec) : Runners × Answer :=
  if (runners[spec.runnerId]?).any fun runner => runner.state = .running then
    (runners, .finished (.error (.alreadyRunning spec.runnerId)))
  else match answers.spawn spec.runnerId with
    | .error detail => (runners, .finished (.error (.spawn spec.runnerId detail)))
    | .ok child => (runners.insert spec.runnerId (spawned spec child), .finished (.ok ()))

/-- The loop over all runners that refreshes them. -/
def refreshAll (answers : Answers) (runners : Runners) : Runners :=
  runners.map fun runnerId runner => refreshRunner (answers.tryWait runnerId) runner

/-- `RunnerSupervisor::list`. -/
def list (answers : Answers) (runners : Runners) : Runners × List RunnerSnapshot :=
  let runners := refreshAll answers runners
  (runners, runners.toList.map fun entry => snapshotRunner entry.2)

/-- `RunnerSupervisor::restart`. -/
def restart (answers : Answers) (runners : Runners) (runnerId : String) : Runners × Answer :=
  match runners[runnerId]? with
  | none => (runners, .finished (.error (.unknownRunner runnerId)))
  | some runner =>
      match stopChild (answers.stop runnerId) runner with
      | (runner, .dropped) => (runners.insert runnerId runner, .dropped)
      -- `?` before the spawn: the runner is left without a child
      | (runner, .failed error) => (runners.insert runnerId runner, .finished (.error error))
      | (runner, .ok) =>
          match answers.spawn runnerId with
          | .error detail =>
              (runners.insert runnerId runner,
                .finished (.error (.spawn runner.spec.runnerId detail)))
          | .ok child =>
              (runners.insert runnerId
                { runner with
                  child := some child
                  state := .running
                  restarts := runner.restarts + 1
                  lastError := none },
                .finished (.ok ()))

/-- `RunnerSupervisor::stop`. -/
def stop (answers : Answers) (runners : Runners) (runnerId : String) : Runners × Answer :=
  match runners[runnerId]? with
  | none => (runners, .finished (.error (.unknownRunner runnerId)))
  | some runner =>
      match stopChild (answers.stop runnerId) runner with
      | (runner, .dropped) => (runners.insert runnerId runner, .dropped)
      | (runner, .failed error) => (runners.insert runnerId runner, .finished (.error error))
      | (runner, .ok) =>
          (runners.insert runnerId { runner with state := .stopped }, .finished (.ok ()))

/-- The specs of `reconcile` by runner id. -/
abbrev Desired := Std.ExtTreeMap String ManagedRunnerSpec compare

/-- The specs by id; the last one of an id counts. -/
def desiredMap (specs : List ManagedRunnerSpec) : Desired :=
  Std.ExtTreeMap.ofList (specs.map fun spec => (spec.runnerId, spec)) compare

/-- The loop of `reconcile` over the runners that are there. -/
def removeLoop (answers : Answers) (desired : Desired) :
    Runners → List RunnerSupervisorError → List String →
      Runners × Ended (List RunnerSupervisorError)
  | runners, errors, [] => (runners, .finished errors)
  | runners, errors, runnerId :: ids =>
      match runners[runnerId]? with
      | none => removeLoop answers desired runners errors ids
      | some runner =>
          let shouldRemove := (desired[runnerId]?).isNone
          let shouldReplace := (desired[runnerId]?).any fun spec => runner.spec ≠ spec
          if !shouldRemove && !shouldReplace then removeLoop answers desired runners errors ids
          else match stopChild (answers.stop runnerId) runner with
            | (runner, .dropped) => (runners.insert runnerId runner, .dropped)
            -- the entry stays, without its child
            | (runner, .failed error) =>
                removeLoop answers desired (runners.insert runnerId runner) (errors ++ [error]) ids
            | (_, .ok) => removeLoop answers desired (runners.erase runnerId) errors ids

/-- The loop of `reconcile` over the specs. -/
def startLoop (answers : Answers) :
    Runners → List RunnerSupervisorError → List (String × ManagedRunnerSpec) →
      Runners × List RunnerSupervisorError
  | runners, errors, [] => (runners, errors)
  | runners, errors, (runnerId, spec) :: specs =>
      let needsStart := (runners[runnerId]?).all fun runner => runner.state ≠ .running
      if !needsStart then startLoop answers runners errors specs
      else match answers.spawn runnerId with
        | .ok child => startLoop answers (runners.insert runnerId (spawned spec child)) errors specs
        | .error detail =>
            startLoop answers runners (errors ++ [.spawn spec.runnerId detail]) specs

/-- `RunnerSupervisor::reconcile`. -/
def reconcile (answers : Answers) (runners : Runners) (specs : List ManagedRunnerSpec) :
    Runners × Ended (List RunnerSupervisorError) :=
  let desired := desiredMap specs
  let runners := refreshAll answers runners
  match removeLoop answers desired runners [] runners.keys with
  | (runners, .dropped) => (runners, .dropped)
  | (runners, .finished errors) =>
      let (runners, errors) := startLoop answers runners errors desired.toList
      (runners, .finished errors)

/-- The loop of `shutdown`. -/
def stopLoop (answers : Answers) : Runners → List String → Runners × Ended Unit
  | runners, [] => (runners, .finished ())
  | runners, runnerId :: ids =>
      match runners[runnerId]? with
      | none => stopLoop answers runners ids
      | some runner =>
          match stopChild (answers.stop runnerId) runner with
          | (runner, .dropped) => (runners.insert runnerId runner, .dropped)
          -- `let _ = stop_child(..)`
          | (runner, _) => stopLoop answers (runners.insert runnerId runner) ids

/-- `RunnerSupervisor::shutdown`. -/
def shutdown (answers : Answers) (runners : Runners) : Runners × Ended Unit :=
  stopLoop answers runners runners.keys

/-- An operation. -/
inductive Operation where
  | start (spec : ManagedRunnerSpec)
  | list
  | restart (runnerId : String)
  | stop (runnerId : String)
  | reconcile (specs : List ManagedRunnerSpec)
  | shutdown
  /-- an operation whose future is dropped while it waits for the mutex -/
  | abandoned
  deriving DecidableEq, Repr

/-- A call of the supervisor. -/
structure Call where
  operation : Operation
  answers : Answers

/-- One operation. -/
def step (runners : Runners) (call : Call) : Option Runners :=
  match call.operation with
  | .start spec => some (start call.answers runners spec).1
  | .list => some (list call.answers runners).1
  | .restart runnerId => some (restart call.answers runners runnerId).1
  | .stop runnerId => some (stop call.answers runners runnerId).1
  | .reconcile specs => some (reconcile call.answers runners specs).1
  | .shutdown => some (shutdown call.answers runners).1
  | .abandoned => some runners

/-! ## Owning a child -/

/-- A runner that is recorded as running owns a child. -/
def ManagedRunner.Owns (runner : ManagedRunner) : Prop :=
  runner.state = .running → runner.child.isSome = true

/-- Every runner that is recorded as running owns a child. -/
def OwnsChild (runners : Runners) : Prop :=
  ∀ (runnerId : String) (runner : ManagedRunner), runners[runnerId]? = some runner → runner.Owns

/-- The child ends. -/
def StopAnswer.ends : StopAnswer → Bool
  | .exited | .waited | .killed => true
  | .killFailed _ | .dropped => false

theorem refreshRunner_owns {answer : TryWait} {runner : ManagedRunner} (h : runner.Owns) :
    (refreshRunner answer runner).Owns := by
  obtain ⟨spec, child, state, restarts, lastError⟩ := runner
  cases child with
  | none => exact h
  | some child =>
      cases answer with
      | running => exact fun _ => rfl
      | exited | failed => exact fun hrunning => nomatch hrunning

/-- A runner whose child is taken in vain is as before without it. -/
theorem stopChild_state (answer : StopAnswer) (runner : ManagedRunner) :
    (stopChild answer runner).1.child = none ∧
      ((stopChild answer runner).1.state = .stopped ∨
        (stopChild answer runner).1.state = runner.state ∧ answer.ends = false ∧
          (stopChild answer runner).2 ≠ .ok) := by
  obtain ⟨spec, child, state, restarts, lastError⟩ := runner
  cases child with
  | none => exact ⟨rfl, Or.inl rfl⟩
  | some child =>
      cases answer with
      | exited | waited | killed => exact ⟨rfl, Or.inl rfl⟩
      | killFailed detail | dropped => exact ⟨rfl, Or.inr ⟨rfl, rfl, nofun⟩⟩

theorem stopChild_spec (answer : StopAnswer) (runner : ManagedRunner) :
    (stopChild answer runner).1.spec = runner.spec := by
  obtain ⟨spec, child, state, restarts, lastError⟩ := runner
  cases child with
  | none => rfl
  | some child => cases answer <;> rfl

/-- Nothing is recorded as running once its child was to be stopped, when a
    running one ends. -/
theorem stopChild_not_running {answer : StopAnswer} {runner : ManagedRunner}
    (h : runner.state = .running → answer.ends = true) :
    (stopChild answer runner).1.state ≠ .running := by
  obtain ⟨-, hstopped | ⟨hsame, hends, -⟩⟩ := stopChild_state answer runner
  · rw [hstopped]
    exact nofun
  · rw [hsame]
    exact fun hrunning => absurd (hends.symm.trans (h hrunning)) nofun

section Runners

variable {runners : Runners}

theorem getElem?_insert {runnerId id : String} {runner : ManagedRunner} :
    (runners.insert runnerId runner)[id]? =
      if runnerId = id then some runner else runners[id]? := by
  rw [Std.ExtTreeMap.getElem?_insert]
  simp only [Std.LawfulEqCmp.compare_eq_iff_eq]

theorem getElem?_erase {runnerId id : String} :
    (runners.erase runnerId)[id]? = if runnerId = id then none else runners[id]? := by
  rw [Std.ExtTreeMap.getElem?_erase]
  simp only [Std.LawfulEqCmp.compare_eq_iff_eq]

theorem getElem?_refreshAll {answers : Answers} {id : String} :
    (refreshAll answers runners)[id]? =
      (runners[id]?).map (refreshRunner (answers.tryWait id)) := by
  rw [refreshAll, Std.ExtTreeMap.getElem?_map]

/-- A property of each entry is kept when one entry is replaced. -/
theorem forall_insert {P : String → ManagedRunner → Prop} {runnerId : String}
    {runner : ManagedRunner}
    (h : ∀ (id : String) (r : ManagedRunner), runners[id]? = some r → P id r)
    (hrunner : P runnerId runner) :
    ∀ (id : String) (r : ManagedRunner), (runners.insert runnerId runner)[id]? = some r →
      P id r := by
  intro id r hr
  rw [getElem?_insert] at hr
  by_cases hid : runnerId = id
  · rw [if_pos hid] at hr
    rw [← hid, ← Option.some.inj hr]
    exact hrunner
  · rw [if_neg hid] at hr
    exact h id r hr

theorem forall_erase {P : String → ManagedRunner → Prop} {runnerId : String}
    (h : ∀ (id : String) (r : ManagedRunner), runners[id]? = some r → P id r) :
    ∀ (id : String) (r : ManagedRunner), (runners.erase runnerId)[id]? = some r → P id r := by
  intro id r hr
  rw [getElem?_erase] at hr
  by_cases hid : runnerId = id
  · rw [if_pos hid] at hr
    exact nomatch hr
  · rw [if_neg hid] at hr
    exact h id r hr

theorem OwnsChild.insert {runnerId : String} {runner : ManagedRunner} (h : OwnsChild runners)
    (hrunner : runner.Owns) : OwnsChild (runners.insert runnerId runner) :=
  forall_insert h hrunner

theorem OwnsChild.refreshAll {answers : Answers} (h : OwnsChild runners) :
    OwnsChild (refreshAll answers runners) := by
  intro id runner hrunner
  rw [getElem?_refreshAll, Option.map_eq_some_iff] at hrunner
  obtain ⟨before, hbefore, rfl⟩ := hrunner
  exact refreshRunner_owns (h id before hbefore)

end Runners

/-! ## What each operation keeps -/

section Operations

variable {answers : Answers} {runners runners' : Runners}

/-- Every runner of a set that is recorded as running ends when it is stopped. -/
def StopsEnd (answers : Answers) (chosen : String → ManagedRunner → Prop) (runners : Runners) :
    Prop :=
  ∀ (id : String) (runner : ManagedRunner), runners[id]? = some runner → chosen id runner →
    runner.state = .running → (answers.stop id).ends = true

/-- What a stop leaves of a runner that ends when it is stopped. -/
theorem StopsEnd.stopped {chosen : String → ManagedRunner → Prop} {runnerId : String}
    {runner after : ManagedRunner} {stopEnd : StopEnd} (h : StopsEnd answers chosen runners)
    (hrunner : runners[runnerId]? = some runner) (hchosen : chosen runnerId runner)
    (hafter : stopChild (answers.stop runnerId) runner = (after, stopEnd)) :
    after.state ≠ .running := by
  have hnot := stopChild_not_running (h runnerId runner hrunner hchosen)
  rw [hafter] at hnot
  exact hnot

/-- A runner that is not running owes no child. -/
theorem OwnsChild.insert_idle {runnerId : String} {runner : ManagedRunner} (h : OwnsChild runners)
    (hnot : runner.state ≠ .running) : OwnsChild (runners.insert runnerId runner) :=
  h.insert fun hrunning => absurd hrunning hnot

theorem ownsChild_start (h : OwnsChild runners) (spec : ManagedRunnerSpec) :
    OwnsChild (start answers runners spec).1 := by
  rw [start]
  split
  · exact h
  · split
    · exact h
    · exact h.insert fun _ => rfl

/-- What `stop` and `restart` make of the runner of an id: if there is one, another
    with its spec, which owns a child when the old one has ended. -/
inductive Handled (answers : Answers) (runners : Runners) (runnerId : String) : Runners → Prop where
  | absent : Handled answers runners runnerId runners
  | replaced (runner after : ManagedRunner) (hrunner : runners[runnerId]? = some runner)
      (hspec : after.spec = runner.spec)
      (howns : (runner.state = .running → (answers.stop runnerId).ends = true) → after.Owns) :
      Handled answers runners runnerId (runners.insert runnerId after)

/-- The child is taken, whether or not it ends. -/
theorem Handled.taken {runnerId : String} {runner after : ManagedRunner} {stopEnd : StopEnd}
    (hrunner : runners[runnerId]? = some runner)
    (hafter : stopChild (answers.stop runnerId) runner = (after, stopEnd)) :
    Handled answers runners runnerId (runners.insert runnerId after) := by
  have hspec := stopChild_spec (answers.stop runnerId) runner
  rw [hafter] at hspec
  refine .replaced runner after hrunner hspec fun hends hrunning => ?_
  have hnot := stopChild_not_running hends
  rw [hafter] at hnot
  exact absurd hrunning hnot

theorem restart_handled (runnerId : String) :
    Handled answers runners runnerId (restart answers runners runnerId).1 := by
  rw [restart]
  split
  · exact .absent
  · rename_i runner hrunner
    split
    · rename_i after hafter
      exact .taken hrunner hafter
    · rename_i after error hafter
      exact .taken hrunner hafter
    · rename_i after hafter
      split
      · exact .taken hrunner hafter
      · have hspec := stopChild_spec (answers.stop runnerId) runner
        rw [hafter] at hspec
        exact .replaced runner _ hrunner hspec fun _ _ => rfl

theorem stop_handled (runnerId : String) :
    Handled answers runners runnerId (stop answers runners runnerId).1 := by
  rw [stop]
  split
  · exact .absent
  · rename_i runner hrunner
    split
    · rename_i after hafter
      exact .taken hrunner hafter
    · rename_i after error hafter
      exact .taken hrunner hafter
    · rename_i after hafter
      have hspec := stopChild_spec (answers.stop runnerId) runner
      rw [hafter] at hspec
      exact .replaced runner _ hrunner hspec fun _ hrunning => nomatch hrunning

theorem Handled.ownsChild {runnerId : String} (m : Handled answers runners runnerId runners')
    (h : OwnsChild runners) (hends : StopsEnd answers (fun id _ => id = runnerId) runners) :
    OwnsChild runners' := by
  cases m with
  | absent => exact h
  | replaced runner after hrunner _ howns =>
      exact h.insert (howns (hends runnerId runner hrunner rfl))

/-- A replaced entry that is not running is no reason to stop one that is. -/
theorem StopsEnd.insert {chosen : String → ManagedRunner → Prop} {runnerId : String}
    {runner : ManagedRunner} (h : StopsEnd answers chosen runners)
    (hnot : runner.state ≠ .running) :
    StopsEnd answers chosen (runners.insert runnerId runner) :=
  forall_insert h fun _ hrunning => absurd hrunning hnot

theorem ownsChild_stopLoop {ids : List String} (h : OwnsChild runners)
    (hends : StopsEnd answers (fun _ _ => True) runners) :
    OwnsChild (stopLoop answers runners ids).1 := by
  induction ids generalizing runners with
  | nil => exact h
  | cons runnerId ids ih =>
      rw [stopLoop]
      split
      · exact ih h hends
      · rename_i runner hrunner
        split
        · rename_i after hafter
          exact h.insert_idle (hends.stopped hrunner trivial hafter)
        · rename_i after stopEnd _ hafter
          have hnot := hends.stopped hrunner trivial hafter
          exact ih (h.insert_idle hnot) (hends.insert hnot)

/-- A runner that `reconcile` stops: it is not desired, or with another spec. -/
def Replaced (desired : Desired) (id : String) (runner : ManagedRunner) : Prop :=
  desired[id]? ≠ some runner.spec

theorem kept_iff {desired : Desired} {runnerId : String} {runner : ManagedRunner} :
    (!(desired[runnerId]?).isNone && !(desired[runnerId]?).any fun spec => runner.spec ≠ spec) =
      true ↔ desired[runnerId]? = some runner.spec := by
  cases desired[runnerId]? with
  | none => simp
  | some spec => simp [eq_comm]

theorem ownsChild_removeLoop {desired : Desired} {errors : List RunnerSupervisorError}
    {ids : List String} (h : OwnsChild runners)
    (hends : StopsEnd answers (Replaced desired) runners) :
    OwnsChild (removeLoop answers desired runners errors ids).1 := by
  induction ids generalizing runners errors with
  | nil => exact h
  | cons runnerId ids ih =>
      rw [removeLoop]
      split
      · exact ih h hends
      · rename_i runner hrunner
        dsimp only
        split
        · exact ih h hends
        · rename_i hreplaced
          rw [kept_iff] at hreplaced
          split
          · rename_i after hafter
            exact h.insert_idle (hends.stopped hrunner hreplaced hafter)
          · rename_i after error hafter
            have hnot := hends.stopped hrunner hreplaced hafter
            exact ih (h.insert_idle hnot) (hends.insert hnot)
          · exact ih (forall_erase h) (forall_erase hends)

theorem ownsChild_startLoop {errors : List RunnerSupervisorError}
    {specs : List (String × ManagedRunnerSpec)} (h : OwnsChild runners) :
    OwnsChild (startLoop answers runners errors specs).1 := by
  induction specs generalizing runners errors with
  | nil => exact h
  | cons entry specs ih =>
      rw [startLoop]
      split
      · exact ih h
      · split
        · exact ih (h.insert fun _ => rfl)
        · exact ih h

theorem ownsChild_reconcile {specs : List ManagedRunnerSpec} (h : OwnsChild runners)
    (hends : StopsEnd answers (Replaced (desiredMap specs)) (refreshAll answers runners)) :
    OwnsChild (reconcile answers runners specs).1 := by
  have hremoved : OwnsChild (removeLoop answers (desiredMap specs) (refreshAll answers runners) []
      (refreshAll answers runners).keys).1 := ownsChild_removeLoop h.refreshAll hends
  rw [reconcile]
  split
  · rename_i hloop
    rw [hloop] at hremoved
    exact hremoved
  · rename_i hloop
    rw [hloop] at hremoved
    exact ownsChild_startLoop hremoved

end Operations

/-! ## Runners without a process -/

/-- The runner of an id, if there is one, has no process and is not recorded as
    running. -/
def Down (runners : Runners) (id : String) : Prop :=
  ∀ runner : ManagedRunner, runners[id]? = some runner →
    runner.child = none ∧ runner.state ≠ .running

section Restarts

variable {answers : Answers} {runners runners' : Runners} {id : String}

theorem Down.insert {runnerId : String} {runner : ManagedRunner} (h : Down runners id)
    (hrunner : runnerId = id → runner.child = none ∧ runner.state ≠ .running) :
    Down (runners.insert runnerId runner) id := by
  intro r hr
  rw [getElem?_insert] at hr
  split at hr
  · rename_i hid
    rw [← Option.some.inj hr]
    exact hrunner hid
  · exact h r hr

theorem Down.erase {runnerId : String} (h : Down runners id) :
    Down (runners.erase runnerId) id := by
  intro r hr
  rw [getElem?_erase] at hr
  split at hr
  · exact nomatch hr
  · exact h r hr

/-- Stopping what has no process leaves it down. -/
theorem Down.stopChild {runnerId : String} {runner : ManagedRunner} (answer : StopAnswer)
    (h : Down runners id) (hrunner : runners[runnerId]? = some runner) (hid : runnerId = id) :
    (stopChild answer runner).1.child = none ∧ (stopChild answer runner).1.state ≠ .running := by
  obtain ⟨-, hnot⟩ := h runner (hid ▸ hrunner)
  exact ⟨(stopChild_state _ _).1, stopChild_not_running fun hrunning => absurd hrunning hnot⟩

theorem down_removeLoop {desired : Desired} {errors : List RunnerSupervisorError}
    {ids : List String} (h : Down runners id) :
    Down (removeLoop answers desired runners errors ids).1 id := by
  induction ids generalizing runners errors with
  | nil => exact h
  | cons runnerId ids ih =>
      rw [removeLoop]
      split
      · exact ih h
      · rename_i runner hrunner
        dsimp only
        split
        · exact ih h
        · have hdown := h.stopChild (answers.stop runnerId) hrunner
          split
          · rename_i after hafter
            rw [hafter] at hdown
            exact h.insert hdown
          · rename_i after error hafter
            rw [hafter] at hdown
            exact ih (h.insert hdown)
          · exact ih h.erase

/-- A started runner is not touched by the specs of other ids. -/
theorem startLoop_other {errors : List RunnerSupervisorError}
    {specs : List (String × ManagedRunnerSpec)} (h : ∀ entry ∈ specs, entry.1 ≠ id) :
    (startLoop answers runners errors specs).1[id]? = runners[id]? := by
  induction specs generalizing runners errors with
  | nil => rfl
  | cons entry specs ih =>
      obtain ⟨hentry, hspecs⟩ := List.forall_mem_cons.mp h
      rw [startLoop]
      split
      · exact ih hspecs
      · split
        · rw [ih hspecs, getElem?_insert, if_neg hentry]
        · exact ih hspecs

theorem startLoop_errors {errors : List RunnerSupervisorError}
    {specs : List (String × ManagedRunnerSpec)} {error : RunnerSupervisorError}
    (h : error ∈ errors) : error ∈ (startLoop answers runners errors specs).2 := by
  induction specs generalizing runners errors with
  | nil => exact h
  | cons entry specs ih =>
      rw [startLoop]
      split
      · exact ih h
      · split
        · exact ih h
        · exact ih (List.mem_append_left _ h)

/-- The runner is spawned, or the error of its spawn is reported. -/
def Respawned (answers : Answers) (runners : Runners) (errors : List RunnerSupervisorError)
    (id : String) (spec : ManagedRunnerSpec) : Prop :=
  match answers.spawn id with
  | .ok child => runners[id]? = some (spawned spec child)
  | .error detail => .spawn spec.runnerId detail ∈ errors

/-- A wanted runner that is not recorded as running is spawned. -/
theorem startLoop_respawns {errors : List RunnerSupervisorError}
    {specs : List (String × ManagedRunnerSpec)} {spec : ManagedRunnerSpec}
    (h : ∀ runner : ManagedRunner, runners[id]? = some runner → runner.state ≠ .running)
    (hids : specs.Pairwise fun a b => a.1 ≠ b.1) (hmem : (id, spec) ∈ specs) :
    Respawned answers (startLoop answers runners errors specs).1
      (startLoop answers runners errors specs).2 id spec := by
  induction specs generalizing runners errors with
  | nil => exact nomatch hmem
  | cons entry specs ih =>
      obtain ⟨hentry, hspecs⟩ := List.pairwise_cons.mp hids
      rw [startLoop]
      rcases List.mem_cons.mp hmem with rfl | hmem
      · -- its turn: nothing is recorded as running under the id
        have hneeds : ((runners[id]?).all fun runner => runner.state ≠ .running) = true := by
          cases hrunner : runners[id]? with
          | none => rfl
          | some runner => simpa using h runner hrunner
        have hother : ∀ entry ∈ specs, entry.1 ≠ id := fun entry hentry' =>
          (hentry entry hentry').symm
        rw [Respawned, if_neg (by simpa using hneeds)]
        cases answers.spawn id with
        | ok child =>
            dsimp only
            rw [startLoop_other hother, getElem?_insert, if_pos rfl]
        | error detail =>
            exact startLoop_errors (List.mem_append_right _ (List.mem_singleton.mpr rfl))
      · have hne : entry.1 ≠ id := hentry _ hmem
        split
        · exact ih h hspecs hmem
        · split
          · refine ih (fun runner hrunner => ?_) hspecs hmem
            rw [getElem?_insert, if_neg hne] at hrunner
            exact h runner hrunner
          · exact ih h hspecs hmem

end Restarts

/-! ## Every run -/

/-- What is true of the supervisor between two operations. -/
structure Truthful (runners : Runners) : Prop where
  /-- A runner that is recorded as running owns a child. -/
  owns : OwnsChild runners
  /-- What `list` reports as running has a process. -/
  listed : ∀ answers, ∀ snapshot ∈ (list answers runners).2,
    snapshot.state = .running → snapshot.pid.isSome = true
  /-- A runner without a process is spawned by the next `reconcile` that wants
      it, or the error of its spawn is reported. -/
  restarted : ∀ answers specs runners' errors,
    reconcile answers runners specs = (runners', .finished errors) →
    ∀ (id : String) (spec : ManagedRunnerSpec), (desiredMap specs)[id]? = some spec →
      (∀ runner : ManagedRunner, (refreshAll answers runners)[id]? = some runner →
        runner.child = none) →
      Respawned answers runners' errors id spec

/-- A running runner whose child a call takes ends: no kill fails, and the
    future is not dropped while it waits for such a child.  For `reconcile` it
    is the state after the refresh that counts. -/
def LosesNoChild (runners : Runners) (call : Call) : Prop :=
  match call.operation with
  | .restart runnerId | .stop runnerId =>
      StopsEnd call.answers (fun id _ => id = runnerId) runners
  | .reconcile specs =>
      StopsEnd call.answers (Replaced (desiredMap specs)) (refreshAll call.answers runners)
  | .shutdown => StopsEnd call.answers (fun _ _ => True) runners
  | .start _ | .list | .abandoned => True

section Run

variable {runners runners' : Runners}

theorem ownsChild_step {call : Call} (h : OwnsChild runners) (hkeeps : LosesNoChild runners call)
    (hstep : step runners call = some runners') : OwnsChild runners' := by
  obtain ⟨operation, answers⟩ := call
  cases operation with
  | start spec =>
      rw [← Option.some.inj hstep]
      exact ownsChild_start h spec
  | list =>
      rw [← Option.some.inj hstep]
      exact h.refreshAll
  | restart runnerId =>
      rw [← Option.some.inj hstep]
      exact (restart_handled runnerId).ownsChild h hkeeps
  | stop runnerId =>
      rw [← Option.some.inj hstep]
      exact (stop_handled runnerId).ownsChild h hkeeps
  | reconcile specs =>
      rw [← Option.some.inj hstep]
      exact ownsChild_reconcile h hkeeps
  | shutdown =>
      rw [← Option.some.inj hstep]
      exact ownsChild_stopLoop h hkeeps
  | abandoned =>
      rw [← Option.some.inj hstep]
      exact h

theorem listed_of_owns (h : OwnsChild runners) {answers : Answers} {snapshot : RunnerSnapshot}
    (hmem : snapshot ∈ (list answers runners).2) (hrunning : snapshot.state = .running) :
    snapshot.pid.isSome = true := by
  obtain ⟨⟨id, runner⟩, hentry, rfl⟩ := List.mem_map.mp hmem
  rw [Std.ExtTreeMap.mem_toList_iff_getElem?_eq_some] at hentry
  rw [snapshotRunner, Option.isSome_map]
  exact h.refreshAll id runner hentry hrunning

theorem restarted_of_owns (h : OwnsChild runners) {answers : Answers}
    {specs : List ManagedRunnerSpec} {errors : List RunnerSupervisorError}
    (hreconcile : reconcile answers runners specs = (runners', .finished errors)) {id : String}
    {spec : ManagedRunnerSpec} (hwanted : (desiredMap specs)[id]? = some spec)
    (hchildless : ∀ runner : ManagedRunner, (refreshAll answers runners)[id]? = some runner →
      runner.child = none) : Respawned answers runners' errors id spec := by
  have hdown : Down (refreshAll answers runners) id := by
    intro runner hrunner
    have hnone := hchildless runner hrunner
    refine ⟨hnone, fun hrunning => ?_⟩
    have hsome := h.refreshAll id runner hrunner hrunning
    rw [hnone] at hsome
    exact nomatch hsome
  have hids : (desiredMap specs).toList.Pairwise fun a b => a.1 ≠ b.1 :=
    Std.ExtTreeMap.distinct_keys_toList.imp fun hne heq =>
      hne (Std.LawfulEqCmp.compare_eq_iff_eq.mpr heq)
  have hmem : (id, spec) ∈ (desiredMap specs).toList :=
    Std.ExtTreeMap.mem_toList_iff_getElem?_eq_some.mpr hwanted
  have hremoved : Down (removeLoop answers (desiredMap specs) (refreshAll answers runners) []
      (refreshAll answers runners).keys).1 id := down_removeLoop hdown
  rw [reconcile] at hreconcile
  split at hreconcile
  · exact nomatch (Prod.mk.inj hreconcile).2
  · rename_i removed errors₁ hloop
    rw [hloop] at hremoved
    obtain ⟨hrunners, hended⟩ := Prod.mk.inj hreconcile
    rw [← hrunners, ← Ended.finished.inj hended]
    exact startLoop_respawns (fun runner hrunner => (hremoved runner hrunner).2) hids hmem

theorem OwnsChild.truthful (h : OwnsChild runners) : Truthful runners where
  owns := h
  listed := fun _ _ hmem hrunning => listed_of_owns h hmem hrunning
  restarted := fun _ _ _ _ hreconcile _ _ hwanted hchildless =>
    restarted_of_owns h hreconcile hwanted hchildless

/-- A run that loses no child keeps every running runner's. -/
theorem ownsChild_of_reaches (h : Reaches step LosesNoChild ∅ runners) : OwnsChild runners := by
  refine h.invariant (fun id runner hrunner => ?_) fun _ _ _ howns hkeeps hstep =>
    ownsChild_step howns hkeeps hstep
  rw [Std.ExtTreeMap.getElem?_empty] at hrunner
  exact nomatch hrunner

end Run

/-- **RUNNERS TELL THE TRUTH**: in every run of the supervisor in which no call
    loses the child of a running runner, what is recorded as running owns a
    child, is listed with a process, and is spawned again when it has none. -/
theorem runs_truthful {runners : Runners} (h : Reaches step LosesNoChild ∅ runners) :
    Truthful runners :=
  (ownsChild_of_reaches h).truthful

/-! ### Stops that end the process, and a kill that fails -/

/-- The spec of a sidecar. -/
def sidecarSpec : ManagedRunnerSpec where
  runnerId := "sidecar-a"
  pluginId := "plugin-a"
  runtime := ⟨"/bin/sh", ["-c", "sleep 30"], [], none, "sidecar"⟩
  envAllowlist := []
  serviceHome := ⟨false, []⟩
  sessionToken := "token"

/-- Processes that run, spawn as `pid` and are stopped as told. -/
def sidecarAnswers (pid : Nat) (stop : StopAnswer) : Answers where
  tryWait _ := .running
  stop _ := stop
  spawn _ := .ok ⟨pid⟩

/-- The sidecar, started as process 1. -/
def startedSidecar : Runners := (start (sidecarAnswers 1 .killed) ∅ sidecarSpec).1

theorem startedSidecar_owns : OwnsChild startedSidecar :=
  ownsChild_of_reaches
    (Reaches.step ⟨.start sidecarSpec, sidecarAnswers 1 .killed⟩ Reaches.init trivial rfl)

/-- Another sidecar. -/
def otherSidecar : ManagedRunnerSpec :=
  { sidecarSpec with runnerId := "sidecar-b", pluginId := "plugin-b" }

/-- The sidecar is stopped, restarted and joined by the other one. -/
def joinedSidecars : Runners :=
  let stopped := (stop (sidecarAnswers 2 .waited) startedSidecar "sidecar-a").1
  let restarted := (restart (sidecarAnswers 3 .waited) stopped "sidecar-a").1
  (reconcile (sidecarAnswers 4 .waited) restarted [otherSidecar, sidecarSpec]).1

/-- And replaced by it at last. -/
def otherSidecars : Runners :=
  (reconcile (sidecarAnswers 5 .waited) joinedSidecars [otherSidecar]).1

theorem stopsEnd_waited (pid : Nat) (chosen : String → ManagedRunner → Prop) (runners : Runners) :
    StopsEnd (sidecarAnswers pid .waited) chosen runners := by
  intro id runner _ _ _
  rfl

theorem otherSidecars_truthful :
    (joinedSidecars["sidecar-a"]?).map (fun runner => (runner.state, runner.child, runner.restarts))
        = some (.running, some ⟨3⟩, 1) ∧
      (otherSidecars.keys, (otherSidecars["sidecar-b"]?).map ManagedRunner.child)
        = (["sidecar-b"], some (some ⟨4⟩)) ∧ Truthful otherSidecars := by
  have hstarted : Reaches step LosesNoChild ∅ startedSidecar :=
    Reaches.step ⟨.start sidecarSpec, sidecarAnswers 1 .killed⟩ Reaches.init trivial rfl
  have hstopped := hstarted.step (Call.mk (.stop "sidecar-a") (sidecarAnswers 2 .waited))
    (stopsEnd_waited _ _ _) rfl
  have hrestarted := hstopped.step (Call.mk (.restart "sidecar-a") (sidecarAnswers 3 .waited))
    (stopsEnd_waited _ _ _) rfl
  have hjoined : Reaches step LosesNoChild ∅ joinedSidecars :=
    hrestarted.step
      (Call.mk (.reconcile [otherSidecar, sidecarSpec]) (sidecarAnswers 4 .waited))
      (stopsEnd_waited _ _ _) rfl
  have hother : Reaches step LosesNoChild ∅ otherSidecars :=
    hjoined.step (Call.mk (.reconcile [otherSidecar]) (sidecarAnswers 5 .waited))
      (stopsEnd_waited _ _ _) rfl
  exact ⟨by decide +kernel, by decide +kernel, runs_truthful hother⟩

/-- A stop whose kill fails. -/
def lostSidecar : Runners :=
  (stop (sidecarAnswers 1 (.killFailed "denied")) startedSidecar "sidecar-a").1

/-- **A LOST SIDECAR**: after a stop whose kill fails the runner is recorded and
    listed as running without a process, and a `reconcile` that wants it leaves
    it so. -/
theorem failed_kill_loses_sidecar :
    Reaches step Free ∅ lostSidecar ∧
      lostSidecar["sidecar-a"]? = some ⟨sidecarSpec, none, .running, 0, none⟩ ∧
      (list (sidecarAnswers 2 .killed) lostSidecar).2.map (fun snapshot =>
        (snapshot.state, snapshot.pid)) = [(.running, none)] ∧
      (reconcile (sidecarAnswers 2 .killed) lostSidecar [sidecarSpec]).2 = .finished [] ∧
      (reconcile (sidecarAnswers 2 .killed) lostSidecar [sidecarSpec]).1["sidecar-a"]? =
        some ⟨sidecarSpec, none, .running, 0, none⟩ ∧
      ¬ Truthful lostSidecar := by
  have hlost : lostSidecar["sidecar-a"]? = some ⟨sidecarSpec, none, .running, 0, none⟩ := by
    decide +kernel
  refine ⟨?_, hlost, by decide +kernel, by decide +kernel, by decide +kernel, fun h => ?_⟩
  · exact Reaches.step ⟨.stop "sidecar-a", sidecarAnswers 1 (.killFailed "denied")⟩
      (Reaches.step ⟨.start sidecarSpec, sidecarAnswers 1 .killed⟩ Reaches.init trivial rfl)
        trivial rfl
  · exact nomatch h.owns "sidecar-a" _ hlost rfl

end ServiceSupervisor
