import Jitsu.Destinations.GoMap

/-! # The Airbyte driver: `Load` and `Close` across interleavings

The `Airbyte` driver of `package airbyte` runs one read process, an `*airbyte.Runner`, per `Load`
call, and keeps it in `activeRunners` under the task's ID while it reads. `Close` closes the
`closed` channel and then, under the mutex, calls `Close()` on every registered runner. `Load`,
`Close` and the `EnsureCatalog` goroutine run concurrently, and each is a sequence of atomic
steps: an `IsClosed()` select, or a critical section under `a.mutex`.

* **`Driver`** — the fields the four functions read and write, plus the runner allocator and a
  ghost record of the runners `Close`'s kill loop sent `Close()` to.
* **`LoadPc`**, **`ClosePc`**, **`CatalogPc`** — where each call is between its atomic steps.
  **`Sys.step`** runs one step of one call; **`Sys.run`** runs a list of steps, so a run of the
  driver is any interleaving of any number of calls.
* **`close_kills_exactly_loads_in_progress`** — the kill loop runs at most once in the life of a
  driver. It sends `Close()` once to the runner of every `Load` in progress at that moment, and no
  later step sends it to any other runner: a runner still reading afterwards either was killed
  there or was registered after it, by a `Load` that had passed its `IsClosed()` check before the
  channel was closed, and keeps running after `Close` returned.
* **`loads_after_close_fail`** — a `Load` called once the channel is closed fails with
  `"<type> has already been closed"` and never starts a runner. -/

namespace Jitsu.Airbyte

open Jitsu.Destinations (GoMap RangeOrder)

/-- An `*airbyte.Runner`: one read process of the source's image. Two runners are the same
process exactly when their ids are equal. -/
structure Runner where
  id : Nat
  deriving DecidableEq, Repr

/-- What `Runner.Close()` returns: nil, `airbyte.ErrAlreadyTerminated`, or another error. -/
inductive KillResult
  | ok
  | alreadyTerminated
  | error (err : String)
  deriving DecidableEq, Repr

/-- What `loadCatalog` returns: `runner.ErrNotReady`, another error, or a discovered catalog. -/
inductive Discovery
  | notReady
  | error (err : String)
  | catalog
  deriving DecidableEq, Repr

/-- What `Ready()` returns: `(false, runner.ErrNotReady)` while the image is not pulled,
`(true, nil)`, or `(false, NewCompositeNotReadyError(msg))` with the last discovery error. -/
inductive ReadyResult
  | imageNotPulled
  | ready
  | notReady (msg : String)
  deriving DecidableEq, Repr

/-- **The driver state.** -/
structure Driver where
  /-- `a.ID()`: the source ID. -/
  sourceID : String
  /-- `a.Type()`: `base.AirbyteType`, a constant declared outside the files we have. -/
  type : String
  /-- Whether `close(a.closed)` has run; `IsClosed()` reads it. -/
  closed : Bool
  activeRunners : GoMap Runner
  catalogDiscovered : Bool
  discoverCatalogLastError : Option String
  /-- The next fresh runner `airbyte.NewRunner` returns. -/
  nextRunner : Nat
  /-- Ghost: the runners the kill loop of `Close` sent `Close()` to, once it has run. -/
  killed : Option (List Runner)

namespace Driver

variable (a : Driver)

/-- `NewAirbyte`'s driver: open, with no runner, and with the catalog discovered exactly when the
config provides one. -/
def new (sourceID type : String) (catalogProvided : Bool) : Driver :=
  ⟨sourceID, type, false, ∅, catalogProvided, none, 0, none⟩

/-- The error of `Load` on a closed driver, `"%s has already been closed"` of `a.Type()`. -/
def closedError : String := a.type ++ " has already been closed"

/-- `a.activeRunners[taskID] = airbyteRunner`, the runner fresh from `NewRunner`. -/
def register (taskID : String) : Driver :=
  { a with
    activeRunners := a.activeRunners.insert taskID ⟨a.nextRunner⟩
    nextRunner := a.nextRunner + 1 }

/-- The deferred `delete(a.activeRunners, taskID)` of `Load`. -/
def unregister (taskID : String) : Driver :=
  { a with activeRunners := a.activeRunners.erase taskID }

/-- The error `Close` collects for a runner whose `Close()` failed. -/
def killError (err : String) : String :=
  "[" ++ a.sourceID ++ "] Error killing airbyte read command: " ++ err

/-- **The kill loop of `Close`**, under the mutex: `Close()` on every active runner, in the
order of the `range` loop, collecting every error but `ErrAlreadyTerminated`. `answer r` is what
`Close()` on `r` returns. -/
def killAll (ord : RangeOrder Runner) (answer : Runner → KillResult) : Driver × List String :=
  let runners := (ord.arrange a.activeRunners.entries).map (·.2)
  ({ a with killed := some runners }, runners.filterMap fun r =>
    match answer r with
    | .error err => some (a.killError err)
    | _ => none)

/-- `Ready()`, given whether the source's image is pulled. -/
def ready (imagePulled : Bool) : ReadyResult :=
  if !imagePulled then .imageNotPulled
  else if a.catalogDiscovered then .ready
  else .notReady ((a.discoverCatalogLastError).getD "")

end Driver

/-- Where a `Load` call is between its atomic steps. -/
inductive LoadPc
  /-- Called; `IsClosed()` not checked yet. -/
  | start
  /-- Past the check: waiting for readiness, the state file and `NewRunner`. -/
  | waiting
  /-- Its runner is registered under the task ID, and `Read` runs. -/
  | reading (runner : Runner)
  /-- `Read` returned `result`; the deferred delete has not run yet. -/
  | returned (runner : Runner) (result : Option String)
  /-- `Load` returned `result`; `none` is nil. -/
  | done (result : Option String)
  deriving DecidableEq, Repr

/-- Where a `Close` call is between its atomic steps. -/
inductive ClosePc
  /-- Called; `IsClosed()` not checked yet. -/
  | start
  /-- Found the channel open; `close(a.closed)` next. -/
  | checked
  /-- Closed the channel; the kill loop next. -/
  | killing
  /-- Returned the errors it collected. -/
  | done (errs : List String)
  /-- `close(a.closed)` found the channel already closed: `panic: close of closed channel`. -/
  | panicked
  deriving DecidableEq, Repr

/-- Where the `EnsureCatalog` goroutine is. -/
inductive CatalogPc
  /-- At the top of its loop. -/
  | loop
  /-- In `loadCatalog`. -/
  | discovering
  /-- Returned. -/
  | stopped
  deriving DecidableEq, Repr

/-- **The driver and the calls made on it so far**: the task ID and state of every `Load` call,
the state of every `Close` call, and the `EnsureCatalog` goroutine `NewAirbyte` starts. -/
structure Sys where
  driver : Driver
  loads : List (String × LoadPc)
  closes : List ClosePc
  catalog : CatalogPc

/-- The driver `NewAirbyte` returns, with its `EnsureCatalog` goroutine started. -/
def Sys.new (sourceID type : String) (catalogProvided : Bool) : Sys :=
  ⟨.new sourceID type catalogProvided, [], [], .loop⟩

/-- One atomic step of one call. -/
inductive Action
  /-- A goroutine calls `Load` for a task. -/
  | callLoad (taskID : String)
  /-- A goroutine calls `Close`. -/
  | callClose
  /-- `Load` number `i`: `if a.IsClosed()`. -/
  | loadCheck (i : Nat)
  /-- `Load` number `i` fails before registering: not ready, or no state file. -/
  | loadFail (i : Nat) (err : String)
  /-- `Load` number `i`, once ready: `a.activeRunners[taskID] = airbyteRunner` under the lock. -/
  | loadRegister (i : Nat)
  /-- The runner of `Load` number `i` ends and `Read` returns `result`. -/
  | loadRead (i : Nat) (result : Option String)
  /-- `Load` number `i`: the deferred delete under the lock, then return. -/
  | loadUnregister (i : Nat)
  /-- `Close` number `j`: `if a.IsClosed()`. -/
  | closeCheck (j : Nat)
  /-- `Close` number `j`: `close(a.closed)`. -/
  | closeChannel (j : Nat)
  /-- `Close` number `j`: the kill loop under the lock, in the order `ord`, with the answers of
  the runners' `Close()`. -/
  | closeKill (j : Nat) (ord : RangeOrder Runner) (answer : Runner → KillResult)
  /-- `EnsureCatalog`: the checks at the top of its loop. -/
  | catalogCheck
  /-- `EnsureCatalog`: `loadCatalog` returns, and the rest of the loop body. -/
  | catalogDiscover (d : Discovery)

namespace Sys

variable (s : Sys)

/-- The `Load` steps, on the state of `Load` number `i`. -/
def loadStep (i : Nat) : Action → Option Sys
  | .loadCheck _ =>
    match s.loads[i]? with
    | some (taskID, .start) =>
      let pc := if s.driver.closed then LoadPc.done (some s.driver.closedError) else .waiting
      some { s with loads := s.loads.set i (taskID, pc) }
    | _ => none
  | .loadFail _ err =>
    match s.loads[i]? with
    | some (taskID, .waiting) => some { s with loads := s.loads.set i (taskID, .done (some err)) }
    | _ => none
  | .loadRegister _ =>
    match s.loads[i]? with
    | some (taskID, .waiting) =>
      if s.driver.catalogDiscovered then
        some { s with
          driver := s.driver.register taskID
          loads := s.loads.set i (taskID, .reading ⟨s.driver.nextRunner⟩) }
      else none
    | _ => none
  | .loadRead _ result =>
    match s.loads[i]? with
    | some (taskID, .reading r) =>
      some { s with loads := s.loads.set i (taskID, .returned r result) }
    | _ => none
  | .loadUnregister _ =>
    match s.loads[i]? with
    | some (taskID, .returned _ result) => some { s with
        driver := s.driver.unregister taskID
        loads := s.loads.set i (taskID, .done result) }
    | _ => none
  | _ => none

/-- The `Close` steps, on the state of `Close` number `j`. -/
def closeStep (j : Nat) : Action → Option Sys
  | .closeCheck _ =>
    match s.closes[j]? with
    | some .start => some { s with
        closes := s.closes.set j (if s.driver.closed then .done [] else .checked) }
    | _ => none
  | .closeChannel _ =>
    match s.closes[j]? with
    | some .checked =>
      if s.driver.closed then some { s with closes := s.closes.set j .panicked }
      else some { s with
        driver := { s.driver with closed := true }
        closes := s.closes.set j .killing }
    | _ => none
  | .closeKill _ ord answer =>
    match s.closes[j]? with
    | some .killing =>
      let r := s.driver.killAll ord answer
      some { s with driver := r.1, closes := s.closes.set j (.done r.2) }
    | _ => none
  | _ => none

/-- The steps of `EnsureCatalog`. Its retry counter and sleeps only time the loop. -/
def catalogStep : Action → Option Sys
  | .catalogCheck =>
    match s.catalog with
    | .loop => some { s with catalog :=
        if s.driver.closed || s.driver.catalogDiscovered then .stopped else .discovering }
    | _ => none
  | .catalogDiscover d =>
    match s.catalog with
    | .discovering =>
      match d with
      | .notReady => some { s with catalog := .loop }
      | .error err => some { s with
          driver := { s.driver with discoverCatalogLastError := some err }, catalog := .loop }
      | .catalog => some { s with
          driver := { s.driver with discoverCatalogLastError := none, catalogDiscovered := true }
          catalog := .stopped }
    | _ => none
  | _ => none

/-- **One step of the driver**: a new call, or a step of a call in progress. -/
def step : Action → Option Sys
  | .callLoad taskID => some { s with loads := s.loads ++ [(taskID, .start)] }
  | .callClose => some { s with closes := s.closes ++ [.start] }
  | a@(.loadCheck i) | a@(.loadFail i _) | a@(.loadRegister i) | a@(.loadRead i _)
  | a@(.loadUnregister i) => s.loadStep i a
  | a@(.closeCheck j) | a@(.closeChannel j) | a@(.closeKill j _ _) => s.closeStep j a
  | a => s.catalogStep a

/-- A run: the steps of the list, one after the other; `none` when one is not enabled. -/
def run : Sys → List Action → Option Sys
  | s, [] => some s
  | s, a :: rest => (s.step a).bind (run · rest)

end Sys

/-! ## Lists of calls -/

section Calls

variable {α β : Type}

theorem getElem?_set_eq_some {l : List α} {i j : Nat} {x y : α} (h : (l.set i x)[j]? = some y) :
    (j = i ∧ x = y) ∨ (j ≠ i ∧ l[j]? = some y) := by
  rw [List.getElem?_set] at h
  split_ifs at h with hij hi
  · exact .inl ⟨hij.symm, Option.some.inj h⟩
  · exact .inr ⟨Ne.symm hij, h⟩

theorem getElem?_concat_eq_some {l : List α} {j : Nat} {x y : α} (h : (l ++ [x])[j]? = some y) :
    l[j]? = some y ∨ (j = l.length ∧ x = y) := by
  rw [List.getElem?_append] at h
  split_ifs at h with hj
  · exact .inl h
  · have hj' : j - l.length = 0 := by
      by_contra hne
      rw [List.getElem?_eq_none (by simp; omega)] at h
      cases h
    rw [hj'] at h
    exact .inr ⟨by omega, Option.some.inj h⟩

/-- Setting the state of a call keeps the list of task IDs. -/
theorem map_fst_set {l : List (String × β)} {i : Nat} {k : String} {p p₀ : β}
    (hi : l[i]? = some (k, p₀)) : (l.set i (k, p)).map Prod.fst = l.map Prod.fst := by
  apply List.ext_getElem?
  intro j
  simp only [List.getElem?_map, List.getElem?_set]
  split_ifs with hij hlt
  · simp [← hij, hi]
  · exact absurd (List.getElem?_eq_some_iff.1 hi).1 hlt
  · rfl

/-- Two calls with distinct task IDs have different IDs. -/
theorem fst_ne_of_nodup {l : List (String × β)} (hd : (l.map Prod.fst).Nodup) {i j : Nat}
    {x y : String × β} (hi : l[i]? = some x) (hj : l[j]? = some y) (hij : i ≠ j) :
    x.1 ≠ y.1 := fun he =>
  hij (List.getElem?_inj (by simpa using (List.getElem?_eq_some_iff.1 hi).1) hd
    (by simp [List.getElem?_map, hi, hj, he]))

end Calls

/-! ## What a step can do -/

namespace Sys

variable {s s' : Sys}

/-- **Every step is a new call, or a step of a `Load`, of a `Close` or of `EnsureCatalog`.** -/
theorem step_cases {a : Action} (h : s.step a = some s') :
    (∃ taskID, s' = { s with loads := s.loads ++ [(taskID, .start)] }) ∨
    (a = .callClose ∧ s' = { s with closes := s.closes ++ [.start] }) ∨
    (∃ i, s.loadStep i a = some s') ∨ (∃ j, s.closeStep j a = some s') ∨
    s.catalogStep a = some s' := by
  cases a with
  | callLoad τ => exact .inl ⟨τ, (Option.some.inj h).symm⟩
  | callClose => exact .inr (.inl ⟨rfl, (Option.some.inj h).symm⟩)
  | loadCheck i | loadFail i _ | loadRegister i | loadRead i _ | loadUnregister i =>
    exact .inr (.inr (.inl ⟨i, h⟩))
  | closeCheck j | closeChannel j | closeKill j _ _ => exact .inr (.inr (.inr (.inl ⟨j, h⟩)))
  | catalogCheck | catalogDiscover _ => exact .inr (.inr (.inr (.inr h)))

/-- **The five steps of a `Load`.** -/
theorem loadStep_cases {i : Nat} {a : Action} (h : s.loadStep i a = some s') :
    ∃ taskID,
    (s.loads[i]? = some (taskID, .start) ∧ s' = { s with loads := s.loads.set i (taskID,
      if s.driver.closed then .done (some s.driver.closedError) else .waiting) }) ∨
    (∃ err, s.loads[i]? = some (taskID, .waiting) ∧
      s' = { s with loads := s.loads.set i (taskID, .done (some err)) }) ∨
    (s.loads[i]? = some (taskID, .waiting) ∧ s.driver.catalogDiscovered = true ∧
      s' = { s with
        driver := s.driver.register taskID
        loads := s.loads.set i (taskID, .reading ⟨s.driver.nextRunner⟩) }) ∨
    (∃ r result, s.loads[i]? = some (taskID, .reading r) ∧
      s' = { s with loads := s.loads.set i (taskID, .returned r result) }) ∨
    (∃ r result, s.loads[i]? = some (taskID, .returned r result) ∧
      s' = { s with
        driver := s.driver.unregister taskID
        loads := s.loads.set i (taskID, .done result) }) := by
  cases a <;> simp only [loadStep] at h <;> (try cases h) <;> split at h <;> (try cases h)
  · next taskID hi => exact ⟨taskID, .inl ⟨hi, rfl⟩⟩
  · next taskID hi => exact ⟨taskID, .inr (.inl ⟨_, hi, rfl⟩)⟩
  · next taskID hi =>
    split at h
    · cases h; exact ⟨taskID, .inr (.inr (.inl ⟨hi, ‹_›, rfl⟩))⟩
    · cases h
  · next taskID r hi => exact ⟨taskID, .inr (.inr (.inr (.inl ⟨r, _, hi, rfl⟩)))⟩
  · next taskID r result hi => exact ⟨taskID, .inr (.inr (.inr (.inr ⟨r, result, hi, rfl⟩)))⟩

/-- **The four steps of a `Close`.** -/
theorem closeStep_cases {j : Nat} {a : Action} (h : s.closeStep j a = some s') :
    (s.closes[j]? = some .start ∧ s' = { s with
      closes := s.closes.set j (if s.driver.closed then .done [] else .checked) }) ∨
    (s.closes[j]? = some .checked ∧ s.driver.closed = true ∧
      s' = { s with closes := s.closes.set j .panicked }) ∨
    (s.closes[j]? = some .checked ∧ s.driver.closed = false ∧ s' = { s with
      driver := { s.driver with closed := true }
      closes := s.closes.set j .killing }) ∨
    (∃ ord answer, s.closes[j]? = some .killing ∧ s' = { s with
      driver := (s.driver.killAll ord answer).1
      closes := s.closes.set j (.done (s.driver.killAll ord answer).2) }) := by
  cases a <;> simp only [closeStep] at h <;> (try cases h) <;> split at h <;> (try cases h)
  · next hj => exact .inl ⟨hj, rfl⟩
  · next hj =>
    cases hc : s.driver.closed <;> simp only [hc] at h <;> cases h
    · exact .inr (.inr (.inl ⟨hj, rfl, rfl⟩))
    · exact .inr (.inl ⟨hj, rfl, rfl⟩)
  · exact .inr (.inr (.inr ⟨_, _, ‹_›, rfl⟩))

/-- `EnsureCatalog` writes only `catalogDiscovered`, `discoverCatalogLastError` and its own
state. -/
theorem catalogStep_frame {a : Action} (h : s.catalogStep a = some s') :
    s'.loads = s.loads ∧ s'.closes = s.closes ∧ s'.driver.closed = s.driver.closed ∧
      s'.driver.killed = s.driver.killed ∧ s'.driver.activeRunners = s.driver.activeRunners ∧
      s'.driver.nextRunner = s.driver.nextRunner ∧ s'.driver.type = s.driver.type := by
  cases a <;> simp only [catalogStep] at h <;> (try cases h) <;> split at h <;> (try cases h)
  · exact ⟨rfl, rfl, rfl, rfl, rfl, rfl, rfl⟩
  · split at h <;> cases h <;> exact ⟨rfl, rfl, rfl, rfl, rfl, rfl, rfl⟩

/-! ## The registry and the kill loop -/

/-- **The invariant of the registry.** Registered runners come from the allocator, none under
two task IDs; and when the `Load` calls have distinct task IDs, the runner of every `Load` in
progress is registered under its task ID. -/
structure RunnerInv (s : Sys) : Prop where
  fresh : ∀ k r, s.driver.activeRunners.lookup k = some r → r.id < s.driver.nextRunner
  distinct : ∀ k k' r, s.driver.activeRunners.lookup k = some r →
    s.driver.activeRunners.lookup k' = some r → k = k'
  inProgress : (s.loads.map Prod.fst).Nodup → ∀ (i : Nat) (taskID : String) (r : Runner),
    (s.loads[i]? = some (taskID, .reading r) ∨
      ∃ result, s.loads[i]? = some (taskID, .returned r result)) →
    s.driver.activeRunners.lookup taskID = some r

/-- **The invariant of the kill loop.** While the channel is open nothing was killed and no
`Close` is killing; a killing `Close` is the only one, and nothing was killed yet; and the kill
loop sent `Close()` to each runner at most once. -/
structure KillInv (s : Sys) : Prop where
  beforeClose : s.driver.closed = false →
    s.driver.killed = none ∧ ∀ j : Nat, s.closes[j]? ≠ some .killing
  killing : ∀ j : Nat, s.closes[j]? = some .killing →
    s.driver.killed = none ∧ ∀ j' : Nat, s.closes[j']? = some .killing → j' = j
  killedNodup : ∀ ks, s.driver.killed = some ks → ks.Nodup

/-- The state of a call in progress is unchanged when another call's is set. -/
theorem inProgress_of_set {l : List (String × LoadPc)} {i j : Nat} {x : String × LoadPc}
    {taskID : String} {r : Runner} (hx : ∀ r result, x.2 ≠ .reading r ∧ x.2 ≠ .returned r result)
    (h : (l.set i x)[j]? = some (taskID, .reading r) ∨
      ∃ result, (l.set i x)[j]? = some (taskID, .returned r result)) :
    j ≠ i ∧ (l[j]? = some (taskID, .reading r) ∨
      ∃ result, l[j]? = some (taskID, .returned r result)) := by
  rcases h with h | ⟨result, h⟩ <;> rcases getElem?_set_eq_some h with ⟨rfl, rfl⟩ | ⟨hj, h⟩
  · exact absurd rfl (hx r none).1
  · exact ⟨hj, .inl h⟩
  · exact absurd rfl (hx r result).2
  · exact ⟨hj, .inr ⟨result, h⟩⟩

theorem RunnerInv.of_eq {s s' : Sys} (hi : RunnerInv s) (hl : s'.loads = s.loads)
    (ha : s'.driver.activeRunners = s.driver.activeRunners)
    (hn : s'.driver.nextRunner = s.driver.nextRunner) : RunnerInv s' :=
  ⟨by rw [ha, hn]; exact hi.fresh, by rw [ha]; exact hi.distinct,
    by rw [hl, ha]; exact hi.inProgress⟩

/-- A `Load` step that leaves its call not in progress and the registry as it is keeps the
registry invariant. -/
theorem RunnerInv.set_idle (hi : RunnerInv s) {i : Nat} {taskID : String} {p₀ p : LoadPc}
    (hl : s.loads[i]? = some (taskID, p₀))
    (hp : ∀ r result, p ≠ .reading r ∧ p ≠ .returned r result) :
    RunnerInv { s with loads := s.loads.set i (taskID, p) } := by
  refine ⟨hi.fresh, hi.distinct, fun hd i' τ' r hr => ?_⟩
  dsimp only at hd hr ⊢
  rw [map_fst_set hl] at hd
  exact hi.inProgress hd i' τ' r (inProgress_of_set hp hr).2

theorem lookup_register (a : Driver) (taskID k : String) :
    (a.register taskID).activeRunners.lookup k =
      if k = taskID then some ⟨a.nextRunner⟩ else a.activeRunners.lookup k := by
  by_cases hk : k = taskID
  · subst hk; simp [Driver.register, AList.lookup_insert]
  · simp [Driver.register, AList.lookup_insert_ne hk, hk]

theorem lookup_unregister (a : Driver) (taskID k : String) :
    (a.unregister taskID).activeRunners.lookup k =
      if k = taskID then none else a.activeRunners.lookup k := by
  by_cases hk : k = taskID
  · subst hk; simp [Driver.unregister, AList.lookup_erase]
  · simp [Driver.unregister, AList.lookup_erase_ne hk, hk]

/-- `close` steps leave the calls of `Load` and the registry as they are. -/
theorem closeStep_frame {j : Nat} {a : Action} (h : s.closeStep j a = some s') :
    s'.loads = s.loads ∧ s'.driver.activeRunners = s.driver.activeRunners ∧
      s'.driver.nextRunner = s.driver.nextRunner ∧ s'.driver.type = s.driver.type := by
  rcases closeStep_cases h with ⟨-, rfl⟩ | ⟨-, -, rfl⟩ | ⟨-, -, rfl⟩ | ⟨_, _, -, rfl⟩ <;>
    exact ⟨rfl, rfl, rfl, rfl⟩

/-- **One step keeps the registry invariant.** -/
theorem RunnerInv.step (hi : RunnerInv s) {a : Action} (h : s.step a = some s') :
    RunnerInv s' := by
  rcases step_cases h with ⟨τ, rfl⟩ | ⟨ha, rfl⟩ | ⟨i, h⟩ | ⟨j, h⟩ | h
  · refine ⟨hi.fresh, hi.distinct, fun hd i' τ' r hr => hi.inProgress ?_ i' τ' r ?_⟩
    · dsimp only at hd
      rw [List.map_append] at hd
      exact hd.of_append_left
    · dsimp only at hr
      rcases hr with hr | ⟨res, hr⟩ <;> rcases getElem?_concat_eq_some hr with hr | ⟨-, hr⟩
      · exact Or.inl hr
      · cases hr
      · exact Or.inr ⟨res, hr⟩
      · cases hr
  · exact ⟨hi.fresh, hi.distinct, hi.inProgress⟩
  · obtain ⟨τ, ⟨hl, rfl⟩ | ⟨err, hl, rfl⟩ | ⟨hl, -, rfl⟩ | ⟨r, res, hl, rfl⟩ | ⟨r, res, hl, rfl⟩⟩ :=
      loadStep_cases h
    · exact hi.set_idle hl fun r res => by split_ifs <;> simp
    · exact hi.set_idle hl fun r res => by simp
    · have hlt := (List.getElem?_eq_some_iff.1 hl).1
      refine ⟨fun k r hk => ?_, fun k k' r hk hk' => ?_, fun hd i' τ' r' hr => ?_⟩
      · dsimp only at hk ⊢
        rw [lookup_register] at hk
        split_ifs at hk
        · cases hk; exact Nat.lt_succ_self _
        · exact Nat.lt_succ_of_lt (hi.fresh k r hk)
      · dsimp only at hk hk'
        rw [lookup_register] at hk hk'
        split_ifs at hk hk' with h₁ h₂ h₂
        · exact h₁.trans h₂.symm
        · cases hk; exact absurd (hi.fresh k' _ hk') (Nat.lt_irrefl _)
        · cases hk'; exact absurd (hi.fresh k _ hk) (Nat.lt_irrefl _)
        · exact hi.distinct k k' r hk hk'
      · dsimp only at hd hr ⊢
        rw [map_fst_set hl] at hd
        rw [lookup_register]
        by_cases hii : i' = i
        · subst hii
          rw [List.getElem?_set_self hlt] at hr
          rcases hr with hr | ⟨_, hr⟩ <;> cases hr
          simp
        · rw [List.getElem?_set_ne (Ne.symm hii)] at hr
          have hr₁ : ∃ p, s.loads[i']? = some (τ', p) := by
            rcases hr with hr | ⟨_, hr⟩ <;> exact ⟨_, hr⟩
          obtain ⟨_, hr₁⟩ := hr₁
          rw [if_neg (fst_ne_of_nodup hd hr₁ hl hii)]
          exact hi.inProgress hd i' τ' r' hr
    · refine ⟨hi.fresh, hi.distinct, fun hd i' τ' r' hr => ?_⟩
      dsimp only at hd hr ⊢
      rw [map_fst_set hl] at hd
      by_cases hii : i' = i
      · subst hii
        rw [List.getElem?_set_self (List.getElem?_eq_some_iff.1 hl).1] at hr
        rcases hr with hr | ⟨_, hr⟩ <;> cases hr
        exact hi.inProgress hd _ _ _ (.inl hl)
      · rw [List.getElem?_set_ne (Ne.symm hii)] at hr
        exact hi.inProgress hd i' τ' r' hr
    · refine ⟨fun k r' hk => ?_, fun k k' r' hk hk' => ?_, fun hd i' τ' r' hr => ?_⟩
      · dsimp only at hk ⊢
        rw [lookup_unregister] at hk
        split_ifs at hk
        exact hi.fresh k r' hk
      · dsimp only at hk hk'
        rw [lookup_unregister] at hk hk'
        split_ifs at hk hk'
        exact hi.distinct k k' r' hk hk'
      · dsimp only at hd hr ⊢
        rw [map_fst_set hl] at hd
        obtain ⟨hii, hr⟩ := inProgress_of_set (fun r res => by simp) hr
        have hr₁ : ∃ p, s.loads[i']? = some (τ', p) := by
          rcases hr with hr | ⟨_, hr⟩ <;> exact ⟨_, hr⟩
        obtain ⟨_, hr₁⟩ := hr₁
        rw [lookup_unregister, if_neg (fst_ne_of_nodup hd hr₁ hl hii)]
        exact hi.inProgress hd i' τ' r' hr
  · obtain ⟨hl, ha, hn, -⟩ := closeStep_frame h
    exact hi.of_eq hl ha hn
  · obtain ⟨hl, -, -, -, ha, hn, -⟩ := catalogStep_frame h
    exact hi.of_eq hl ha hn

/-- `Load` steps leave the calls of `Close`, the channel and the kill record as they are. -/
theorem loadStep_frame {i : Nat} {a : Action} (h : s.loadStep i a = some s') :
    s'.closes = s.closes ∧ s'.driver.closed = s.driver.closed ∧
      s'.driver.killed = s.driver.killed ∧ s'.driver.type = s.driver.type := by
  obtain ⟨τ, ⟨-, rfl⟩ | ⟨_, -, rfl⟩ | ⟨-, -, rfl⟩ | ⟨_, _, -, rfl⟩ | ⟨_, _, -, rfl⟩⟩ :=
    loadStep_cases h <;> exact ⟨rfl, rfl, rfl, rfl⟩

/-- A step that makes no `Close` killing and keeps the channel and the kill record keeps the
kill-loop invariant. -/
theorem KillInv.of_killing {s s' : Sys} (hk : KillInv s)
    (hc : ∀ j : Nat, s'.closes[j]? = some .killing → s.closes[j]? = some .killing)
    (hcl : s'.driver.closed = s.driver.closed) (hkl : s'.driver.killed = s.driver.killed) :
    KillInv s' := by
  refine ⟨fun h => ?_, fun j hj => ?_, fun ks h => hk.killedNodup ks (hkl ▸ h)⟩
  · obtain ⟨hn, hno⟩ := hk.beforeClose (hcl ▸ h)
    exact ⟨hkl ▸ hn, fun j hj => hno j (hc j hj)⟩
  · obtain ⟨hn, hu⟩ := hk.killing j (hc j hj)
    exact ⟨hkl ▸ hn, fun j' hj' => hu j' (hc j' hj')⟩

/-- A step that sets a `Close` call to a state other than `killing` makes no call killing. -/
theorem killing_of_set {l : List ClosePc} {j j' : Nat} {c : ClosePc} (hc : c ≠ .killing)
    (h : (l.set j c)[j']? = some .killing) : j' ≠ j ∧ l[j']? = some .killing := by
  rcases getElem?_set_eq_some h with ⟨-, rfl⟩ | h
  exacts [absurd rfl hc, h]

/-- **Only the kill loop records kills, and it sends `Close()` to each runner once.** -/
theorem RunnerInv.killAll_nodup (hi : RunnerInv s) (ord : RangeOrder Runner) :
    ((ord.arrange s.driver.activeRunners.entries).map (·.2)).Nodup := by
  refine List.Nodup.map_on (fun x hx y hy hxy => ?_)
    ((ord.perm _).nodup_iff.2 s.driver.activeRunners.nodupKeys.nodup)
  rw [(ord.perm _).mem_iff] at hx hy
  have hk := hi.distinct _ _ _ (AList.mem_lookup_iff.2 hx) (hxy ▸ AList.mem_lookup_iff.2 hy)
  exact Sigma.ext hk (heq_of_eq hxy)

/-- The kill loop reaches every registered runner. -/
theorem mem_killAll {a : Driver} {ord : RangeOrder Runner} {taskID : String} {r : Runner}
    (h : a.activeRunners.lookup taskID = some r) :
    r ∈ (ord.arrange a.activeRunners.entries).map (·.2) :=
  List.mem_map.2 ⟨⟨taskID, r⟩, (ord.perm _).mem_iff.2 (AList.mem_lookup_iff.1 h), rfl⟩

/-- **One step keeps the kill-loop invariant.** -/
theorem KillInv.step (hk : KillInv s) (hi : RunnerInv s) {a : Action}
    (h : s.step a = some s') : KillInv s' := by
  rcases step_cases h with ⟨τ, rfl⟩ | ⟨ha, rfl⟩ | ⟨i, h⟩ | ⟨j, h⟩ | h
  · exact hk.of_killing (fun _ h => h) rfl rfl
  · exact hk.of_killing (fun j h => (getElem?_concat_eq_some h).resolve_right (by simp)) rfl rfl
  · obtain ⟨hc, hcl, hkl, -⟩ := loadStep_frame h
    exact hk.of_killing (fun j h => hc ▸ h) hcl hkl
  · rcases closeStep_cases h with ⟨-, rfl⟩ | ⟨-, -, rfl⟩ | ⟨-, hcl, rfl⟩ | ⟨ord, answer, hj, rfl⟩
    · exact hk.of_killing (fun j' h => (killing_of_set (by split_ifs <;> simp) h).2) rfl rfl
    · exact hk.of_killing (fun j' h => (killing_of_set (by simp) h).2) rfl rfl
    · obtain ⟨hn, hnone⟩ := hk.beforeClose hcl
      have honly : ∀ j' : Nat, (s.closes.set j .killing)[j']? = some .killing → j' = j := by
        intro j' h
        rcases getElem?_set_eq_some h with ⟨rfl, -⟩ | ⟨-, h⟩
        exacts [rfl, absurd h (hnone j')]
      refine ⟨fun h => ?_, fun j' hj' => ⟨hn, fun j'' hj'' => ?_⟩, fun ks h => ?_⟩
      · cases h
      · exact (honly j'' hj'').trans (honly j' hj').symm
      · simp [hn] at h
    · have hcl : s.driver.closed = true := by
        cases hc : s.driver.closed
        · exact absurd hj ((hk.beforeClose hc).2 j)
        · rfl
      refine ⟨fun h => by simp [Driver.killAll, hcl] at h, fun j' hj' => ?_, fun ks h => ?_⟩
      · obtain ⟨hne, hj'⟩ := killing_of_set (by simp) hj'
        exact absurd ((hk.killing j hj).2 j' hj') hne
      · simp only [Driver.killAll, Option.some.injEq] at h
        exact h ▸ hi.killAll_nodup ord
  · obtain ⟨-, hc, hcl, hkl, -⟩ := catalogStep_frame h
    exact hk.of_killing (fun j h => hc ▸ h) hcl hkl

/-- **Once the kill loop has run, no step runs it again**: its record never changes. -/
theorem KillInv.killed_step (hk : KillInv s) {a : Action} (h : s.step a = some s')
    {ks : List Runner} (hks : s.driver.killed = some ks) : s'.driver.killed = some ks := by
  rcases step_cases h with ⟨τ, rfl⟩ | ⟨ha, rfl⟩ | ⟨i, h⟩ | ⟨j, h⟩ | h
  · exact hks
  · exact hks
  · exact (loadStep_frame h).2.2.1.trans hks
  · rcases closeStep_cases h with ⟨-, rfl⟩ | ⟨-, -, rfl⟩ | ⟨-, -, rfl⟩ | ⟨_, _, hj, rfl⟩
    · exact hks
    · exact hks
    · exact hks
    · simp [(hk.killing j hj).1] at hks
  · exact (catalogStep_frame h).2.2.2.1.trans hks

/-! ## Runs -/

/-- A property every step keeps holds after every run. -/
theorem run_invariant (P : Sys → Prop) (hP : ∀ {s s' : Sys} {a : Action}, P s →
    s.step a = some s' → P s') {acts : List Action} {s s' : Sys} (hs : P s)
    (h : s.run acts = some s') : P s' := by
  induction acts generalizing s with
  | nil => cases h; exact hs
  | cons a acts ih =>
    obtain ⟨s₁, h₁, h⟩ := Option.bind_eq_some.1 h
    exact ih (hP hs h₁) h

theorem runnerInv_new (sourceID type : String) (catalogProvided : Bool) :
    RunnerInv (Sys.new sourceID type catalogProvided) := by
  refine ⟨fun _ _ h => ?_, fun _ _ _ h => ?_, fun _ _ _ _ h => ?_⟩
  · cases h
  · cases h
  · rcases h with h | ⟨_, h⟩ <;> cases h

theorem killInv_new (sourceID type : String) (catalogProvided : Bool) :
    KillInv (Sys.new sourceID type catalogProvided) := by
  refine ⟨fun _ => ⟨rfl, fun _ h => ?_⟩, fun _ h => ?_, fun _ h => ?_⟩ <;> cases h

/-- Every state of a run of a new driver satisfies both invariants. -/
theorem invariants_of_run {sourceID type : String} {catalogProvided : Bool}
    {acts : List Action} {s : Sys} (h : (Sys.new sourceID type catalogProvided).run acts = some s) :
    RunnerInv s ∧ KillInv s :=
  run_invariant (fun s => RunnerInv s ∧ KillInv s) (fun hs h => ⟨hs.1.step h, hs.2.step hs.1 h⟩)
    ⟨runnerInv_new _ _ _, killInv_new _ _ _⟩ h

/-- **`s` comes after `s₀` in a run**: the allocator has not gone back, and a `Load` reading a
runner allocated before `s₀` was already reading it at `s₀`. -/
def Since (s₀ s : Sys) : Prop :=
  s₀.driver.nextRunner ≤ s.driver.nextRunner ∧
    ∀ (i : Nat) (taskID : String) (r : Runner), s.loads[i]? = some (taskID, .reading r) →
      r.id < s₀.driver.nextRunner → s₀.loads[i]? = some (taskID, .reading r)

/-- A step that sets a `Load` call to a state other than `reading` starts no reading. -/
theorem reading_of_set {l : List (String × LoadPc)} {i j : Nat} {taskID τ : String} {p : LoadPc}
    {r : Runner} (hp : ∀ r, p ≠ .reading r) (h : (l.set i (taskID, p))[j]? = some (τ, .reading r)) :
    l[j]? = some (τ, .reading r) := by
  rcases getElem?_set_eq_some h with ⟨-, h⟩ | ⟨-, h⟩
  · cases h; exact absurd rfl (hp r)
  · exact h

theorem Since.refl (s : Sys) : Since s s := ⟨le_refl _, fun _ _ _ h _ => h⟩

theorem Since.step {s₀ : Sys} (hs : Since s₀ s) {a : Action} (h : s.step a = some s') :
    Since s₀ s' := by
  rcases step_cases h with ⟨τ, rfl⟩ | ⟨ha, rfl⟩ | ⟨i, h⟩ | ⟨j, h⟩ | h
  · refine ⟨hs.1, fun i τ' r hr => hs.2 i τ' r ?_⟩
    rcases getElem?_concat_eq_some hr with hr | ⟨-, hr⟩
    exacts [hr, by cases hr]
  · exact hs
  · obtain ⟨τ, ⟨-, rfl⟩ | ⟨_, -, rfl⟩ | ⟨-, -, rfl⟩ | ⟨_, _, -, rfl⟩ | ⟨_, _, -, rfl⟩⟩ :=
      loadStep_cases h
    · exact ⟨hs.1, fun i τ' r hr => hs.2 i τ' r (reading_of_set (by split_ifs <;> simp) hr)⟩
    · exact ⟨hs.1, fun i τ' r hr => hs.2 i τ' r (reading_of_set (by simp) hr)⟩
    · refine ⟨Nat.le_succ_of_le hs.1, fun i' τ' r hr hlt => ?_⟩
      rcases getElem?_set_eq_some hr with ⟨-, h⟩ | ⟨-, h⟩
      · cases h
        exact absurd hlt (Nat.not_lt.2 hs.1)
      · exact hs.2 i' τ' r h hlt
    · exact ⟨hs.1, fun i τ' r hr => hs.2 i τ' r (reading_of_set (by simp) hr)⟩
    · exact ⟨hs.1, fun i τ' r hr => hs.2 i τ' r (reading_of_set (by simp) hr)⟩
  · obtain ⟨hl, -, hn, -⟩ := closeStep_frame h
    exact ⟨hn ▸ hs.1, fun i τ r hr => hs.2 i τ r (hl ▸ hr)⟩
  · obtain ⟨hl, -, -, -, -, hn, -⟩ := catalogStep_frame h
    exact ⟨hn ▸ hs.1, fun i τ r hr => hs.2 i τ r (hl ▸ hr)⟩

/-- The kill step of `Close` number `j`. -/
theorem step_closeKill {j : Nat} {ord : RangeOrder Runner} {answer : Runner → KillResult}
    (h : s.step (.closeKill j ord answer) = some s') :
    s.closes[j]? = some .killing ∧ s'.driver = (s.driver.killAll ord answer).1 ∧
      s'.loads = s.loads := by
  simp only [step, closeStep] at h
  split at h
  · cases h; exact ⟨‹_›, rfl, rfl⟩
  · cases h

end Sys

open Sys

/-- **What `Close` kills, over every interleaving.** Take any run of a new driver whose `Load`
calls have distinct task IDs, up to the kill loop of a `Close`, and any continuation. The kill
loop had not run before; it sends `Close()` exactly once to each runner it finds, and it finds
the runner of every `Load` reading at that moment; and no later step of any call sends `Close()`
to another runner. A runner reading after that and not killed was allocated after the kill
loop ran: its `Load` had passed its `IsClosed()` check before `close(a.closed)`, registered it
after the kill loop, and it keeps running after `Close` returned. -/
theorem close_kills_exactly_loads_in_progress {sourceID type : String} {catalogProvided : Bool}
    {acts acts' : List Action} {s s₁ s' : Sys} {j : Nat} {ord : RangeOrder Runner}
    {answer : Runner → KillResult}
    (h : (Sys.new sourceID type catalogProvided).run acts = some s)
    (hd : (s.loads.map Prod.fst).Nodup) (hkill : s.step (.closeKill j ord answer) = some s₁)
    (h' : s₁.run acts' = some s') :
    ∃ ks, s.driver.killed = none ∧ s'.driver.killed = some ks ∧ ks.Nodup ∧
      (∀ (i : Nat) (taskID : String) (r : Runner),
        s.loads[i]? = some (taskID, .reading r) → r ∈ ks) ∧
      ∀ (i : Nat) (taskID : String) (r : Runner), s'.loads[i]? = some (taskID, .reading r) →
        r ∈ ks ∨ s.driver.nextRunner ≤ r.id := by
  obtain ⟨hr, hk⟩ := invariants_of_run h
  obtain ⟨hj, hd₁, hl₁⟩ := step_closeKill hkill
  have hks : s₁.driver.killed = some ((ord.arrange s.driver.activeRunners.entries).map (·.2)) := by
    rw [hd₁]; rfl
  obtain ⟨-, -, hks'⟩ := run_invariant (fun t => RunnerInv t ∧ KillInv t ∧ t.driver.killed = _)
    (fun ht h => ⟨ht.1.step h, ht.2.1.step ht.1 h, ht.2.1.killed_step h ht.2.2⟩)
    ⟨hr.step hkill, hk.step hr hkill, hks⟩ h'
  have hin : ∀ (i : Nat) (taskID : String) (r : Runner), s.loads[i]? = some (taskID, .reading r) →
      r ∈ (ord.arrange s.driver.activeRunners.entries).map (·.2) :=
    fun i τ r hr' => mem_killAll (hr.inProgress hd i τ r (.inl hr'))
  have hsince : Since s s' := run_invariant (Since s) (fun hs h => hs.step h)
    ((Since.refl s).step hkill) h'
  refine ⟨_, (hk.killing j hj).1, hks', hr.killAll_nodup ord, hin, fun i τ r hr' => ?_⟩
  by_cases hlt : r.id < s.driver.nextRunner
  · exact .inl (hin i τ r (hsince.2 i τ r hr' hlt))
  · exact .inr (Nat.not_lt.1 hlt)

/-! ### A runner that outlives `Close`

Task `sync-1` registers its runner; task `sync-2` passes its `IsClosed()` check; a `Close`
closes the channel and runs its kill loop; only then does `sync-2` register its runner. -/

/-- The steps up to the kill loop. -/
def sampleActs : List Action :=
  [.callLoad "sync-1", .loadCheck 0, .loadRegister 0, .callLoad "sync-2", .loadCheck 1,
    .callClose, .closeCheck 0, .closeChannel 0]

/-- The driver right before the kill loop. -/
def sampleBefore : Sys :=
  ⟨⟨"source", "airbyte", true, (∅ : GoMap Runner).insert "sync-1" ⟨0⟩, true, none, 1, none⟩,
    [("sync-1", .reading ⟨0⟩), ("sync-2", .waiting)], [.killing], .loop⟩

/-- The driver right after the kill loop, every `Close()` answering nil. -/
def sampleKilled : Sys :=
  ⟨⟨"source", "airbyte", true, (∅ : GoMap Runner).insert "sync-1" ⟨0⟩, true, none, 1,
    some [⟨0⟩]⟩, [("sync-1", .reading ⟨0⟩), ("sync-2", .waiting)], [.done []], .loop⟩

/-- The driver once `sync-2` has registered its runner. -/
def sampleAfter : Sys :=
  ⟨⟨"source", "airbyte", true, ((∅ : GoMap Runner).insert "sync-1" ⟨0⟩).insert "sync-2" ⟨1⟩,
    true, none, 2, some [⟨0⟩]⟩,
    [("sync-1", .reading ⟨0⟩), ("sync-2", .reading ⟨1⟩)], [.done []], .loop⟩

theorem sample_close_leaves_runner_behind :
    (∃ ks, sampleBefore.driver.killed = none ∧ sampleAfter.driver.killed = some ks ∧
      ks.Nodup ∧
      (∀ (i : Nat) (taskID : String) (r : Runner),
        sampleBefore.loads[i]? = some (taskID, .reading r) → r ∈ ks) ∧
      ∀ (i : Nat) (taskID : String) (r : Runner),
        sampleAfter.loads[i]? = some (taskID, .reading r) →
          r ∈ ks ∨ sampleBefore.driver.nextRunner ≤ r.id) ∧
    sampleAfter.loads[1]? = some ("sync-2", .reading ⟨1⟩) ∧
      sampleAfter.driver.killed = some [⟨0⟩] :=
  ⟨close_kills_exactly_loads_in_progress
    (show (Sys.new "source" "airbyte" true).run sampleActs = some sampleBefore from rfl)
    (by decide)
    (show sampleBefore.step (.closeKill 0 .listed fun _ => .ok) = some sampleKilled from rfl)
    (show sampleKilled.run [.loadRegister 1] = some sampleAfter from rfl), rfl, rfl⟩

namespace Sys

/-! ## `Load` after `Close` -/

/-- **Every `Load` from number `n` on has not checked yet, or failed with `closedError`**, in a
driver whose channel is closed and whose `Load` error is `closedError`. -/
def LateLoadsFail (n : Nat) (closedError : String) (s : Sys) : Prop :=
  s.driver.closed = true ∧ s.driver.closedError = closedError ∧
    ∀ (i : Nat) (taskID : String) (pc : LoadPc), n ≤ i → s.loads[i]? = some (taskID, pc) →
      pc = .start ∨ pc = .done (some closedError)

/-- A step at a `Load` below `n` leaves the `Load`s from `n` on as they are. -/
theorem getElem?_set_of_lt {l : List (String × LoadPc)} {i j n : Nat} {x y : String × LoadPc}
    (hi : i < n) (hj : n ≤ j) (h : (l.set i x)[j]? = some y) : l[j]? = some y := by
  rwa [List.getElem?_set_ne (by omega)] at h

theorem LateLoadsFail.step {n : Nat} {e : String} (hs : LateLoadsFail n e s) {a : Action}
    (h : s.step a = some s') : LateLoadsFail n e s' := by
  obtain ⟨hc, he, hl⟩ := hs
  have hbelow : ∀ {i : Nat} {taskID : String} {p : LoadPc}, s.loads[i]? = some (taskID, p) →
      p ≠ .start → (∀ r, p ≠ .done r) → i < n := fun hi hs hd => by
    by_contra hn
    rcases hl _ _ _ (Nat.not_lt.1 hn) hi with h | h
    exacts [hs h, hd _ h]
  rcases step_cases h with ⟨τ, rfl⟩ | ⟨ha, rfl⟩ | ⟨i, h⟩ | ⟨j, h⟩ | h
  · refine ⟨hc, he, fun i τ' pc hi h => ?_⟩
    rcases getElem?_concat_eq_some h with h | ⟨-, h⟩
    · exact hl i τ' pc hi h
    · cases h; exact .inl rfl
  · exact ⟨hc, he, hl⟩
  · obtain ⟨hcl, htype⟩ := And.intro (loadStep_frame h).2.1 (loadStep_frame h).2.2.2
    have he' : s'.driver.closedError = e := by rw [Driver.closedError, htype]; exact he
    refine ⟨hcl.trans hc, he', fun i' τ' pc hi' hp => ?_⟩
    obtain ⟨τ, ⟨hi, rfl⟩ | ⟨_, hi, rfl⟩ | ⟨hi, -, rfl⟩ | ⟨_, _, hi, rfl⟩ | ⟨_, _, hi, rfl⟩⟩ :=
      loadStep_cases h
    · rcases getElem?_set_eq_some hp with ⟨-, hp⟩ | ⟨-, hp⟩
      · cases hp; simp [hc, he]
      · exact hl i' τ' pc hi' hp
    all_goals
      exact hl i' τ' pc hi' (getElem?_set_of_lt (hbelow hi (by simp) (by simp)) hi' hp)
  · obtain ⟨hl', -, -, htype⟩ := closeStep_frame h
    have hcl : s'.driver.closed = true := by
      rcases closeStep_cases h with ⟨-, rfl⟩ | ⟨-, -, rfl⟩ | ⟨-, -, rfl⟩ | ⟨_, _, -, rfl⟩
      exacts [hc, hc, rfl, hc]
    have he' : s'.driver.closedError = e := by rw [Driver.closedError, htype]; exact he
    exact ⟨hcl, he', fun i τ pc hi hp => hl i τ pc hi (hl' ▸ hp)⟩
  · obtain ⟨hl', -, hcl, -, -, -, htype⟩ := catalogStep_frame h
    have he' : s'.driver.closedError = e := by rw [Driver.closedError, htype]; exact he
    exact ⟨hcl.trans hc, he', fun i τ pc hi hp => hl i τ pc hi (hl' ▸ hp)⟩

end Sys

/-- **A `Load` called once the channel is closed never starts a runner**, in every
interleaving: from a closed driver, whatever the steps that follow, each `Load` called after it
is still before its check, or has failed with `"<type> has already been closed"`. -/
theorem loads_after_close_fail {s s' : Sys} {acts : List Action} (hc : s.driver.closed = true)
    (h : s.run acts = some s') (i : Nat) (taskID : String) (pc : LoadPc)
    (hi : s.loads.length ≤ i) (hp : s'.loads[i]? = some (taskID, pc)) :
    pc = .start ∨ pc = .done (some s.driver.closedError) :=
  (run_invariant (LateLoadsFail s.loads.length s.driver.closedError) (fun hs h => hs.step h)
    ⟨hc, rfl, fun i _ _ hi hp => absurd hp (by rw [List.getElem?_eq_none hi]; simp)⟩ h).2.2
    i taskID pc hi hp

/-- The sample after a third task calls `Load` and a second `Close` is called. -/
def sampleLate : Sys :=
  { sampleKilled with
    loads := sampleKilled.loads ++ [("sync-3", .done (some "airbyte has already been closed"))]
    closes := [.done [], .start] }

theorem sample_loads_after_close_fail :
    sampleKilled.driver.closed = true ∧
      sampleKilled.run [.callLoad "sync-3", .callClose, .loadCheck 2] = some sampleLate ∧
      ((.done (some "airbyte has already been closed") : LoadPc) = .start ∨
        (.done (some "airbyte has already been closed") : LoadPc) =
          .done (some sampleKilled.driver.closedError)) :=
  ⟨rfl, rfl, loads_after_close_fail rfl
    (show sampleKilled.run [.callLoad "sync-3", .callClose, .loadCheck 2] = some sampleLate
      from rfl) 2 "sync-3" _ (le_refl _) rfl⟩

/-! ## `Close` after `Close` -/

/-- A `Close` call still in progress: called, and not returned. -/
def ClosePc.inProgress : ClosePc → Bool
  | .start | .checked | .killing => true
  | _ => false

/-- Whether the step is a call of `Close`. -/
def Action.isCallClose : Action → Bool
  | .callClose => true
  | _ => false

namespace Sys

variable {s s' : Sys}

/-- `Close` number `j` is in progress. -/
def CloseInProgress (s : Sys) (j : Nat) : Prop :=
  ∃ c, s.closes[j]? = some c ∧ c.inProgress = true

/-- **One `Close` at a time.** At most one `Close` call is in progress, none panicked, and one
past its check found the channel open, which nobody has closed since. -/
structure CloseSeqInv (s : Sys) : Prop where
  single : ∀ j j', s.CloseInProgress j → s.CloseInProgress j' → j = j'
  checked : ∀ j : Nat, s.closes[j]? = some .checked → s.driver.closed = false
  noPanic : ∀ j : Nat, s.closes[j]? ≠ some .panicked

/-- **The runs whose `Close` calls do not overlap**: `Close` is called only while no earlier
`Close` is in progress. -/
def SeqCloses : Sys → List Action → Bool
  | _, [] => true
  | s, a :: rest => (!a.isCallClose || s.closes.all fun c => !c.inProgress) &&
      match s.step a with
      | some s' => SeqCloses s' rest
      | none => true

theorem SeqCloses.cons {a : Action} {rest : List Action} (h : SeqCloses s (a :: rest) = true)
    (hs : s.step a = some s') :
    (a.isCallClose = true → ∀ c ∈ s.closes, c.inProgress = false) ∧ SeqCloses s' rest = true := by
  simp only [SeqCloses, hs, Bool.and_eq_true, Bool.or_eq_true, Bool.not_eq_true',
    List.all_eq_true] at h
  refine ⟨fun ha c hc => ?_, h.2⟩
  rcases h.1 with h₁ | h₁
  · simp [ha] at h₁
  · simpa using h₁ c hc

/-- A step at a `Close` in progress starts no other. -/
theorem closeInProgress_of_set {j j' : Nat} {c₀ c : ClosePc} (hj : s.closes[j]? = some c₀)
    (hc₀ : c₀.inProgress = true) (hc : s'.closes = s.closes.set j c)
    (h : s'.CloseInProgress j') : s.CloseInProgress j' := by
  obtain ⟨c', h, hc'⟩ := h
  rw [hc] at h
  rcases getElem?_set_eq_some h with ⟨rfl, -⟩ | ⟨-, h⟩
  exacts [⟨c₀, hj, hc₀⟩, ⟨c', h, hc'⟩]

theorem CloseSeqInv.of_eq {s s' : Sys} (hs : CloseSeqInv s) (hc : s'.closes = s.closes)
    (hcl : s'.driver.closed = s.driver.closed) : CloseSeqInv s' := by
  refine ⟨fun j j' ⟨c, hj, hc₁⟩ ⟨c', hj', hc₂⟩ => hs.single j j' ⟨c, hc ▸ hj, hc₁⟩
    ⟨c', hc ▸ hj', hc₂⟩, fun j hj => hcl.trans (hs.checked j (hc ▸ hj)), fun j => ?_⟩
  rw [hc]; exact hs.noPanic j

/-- A step of a `Close` in progress that keeps the channel keeps the invariant, unless it
panics, or finds the channel closed and goes on. -/
theorem CloseSeqInv.set {s s' : Sys} (hs : CloseSeqInv s) {j : Nat} {c₀ c : ClosePc}
    (hj : s.closes[j]? = some c₀) (hc₀ : c₀.inProgress = true) (hc : s'.closes = s.closes.set j c)
    (hcl : s'.driver.closed = s.driver.closed) (hp : c ≠ .panicked)
    (hck : c = .checked → s.driver.closed = false) : CloseSeqInv s' := by
  refine ⟨fun j₁ j₂ h₁ h₂ => hs.single j₁ j₂ (closeInProgress_of_set hj hc₀ hc h₁)
    (closeInProgress_of_set hj hc₀ hc h₂), fun j' hj' => ?_, fun j' hj' => ?_⟩ <;>
    rw [hc] at hj' <;> rcases getElem?_set_eq_some hj' with ⟨-, rfl⟩ | ⟨-, hj'⟩
  · exact hcl.trans (hck rfl)
  · exact hcl.trans (hs.checked j' hj')
  · exact hp rfl
  · exact hs.noPanic j' hj'

theorem CloseSeqInv.step (hs : CloseSeqInv s) {a : Action}
    (hseq : a.isCallClose = true → ∀ c ∈ s.closes, c.inProgress = false)
    (h : s.step a = some s') : CloseSeqInv s' := by
  rcases step_cases h with ⟨τ, rfl⟩ | ⟨ha, rfl⟩ | ⟨i, h⟩ | ⟨j, h⟩ | h
  · exact hs.of_eq rfl rfl
  · have hfree : ∀ j : Nat, ¬ s.CloseInProgress j := fun j ⟨c, hj, hc⟩ => by
      simp [hseq (by rw [ha]; rfl) c (List.mem_iff_getElem?.2 ⟨j, hj⟩)] at hc
    have hnew : ∀ j : Nat, CloseInProgress { s with closes := s.closes ++ [.start] } j →
        j = s.closes.length := fun j ⟨c, hj, hc⟩ => by
      rcases getElem?_concat_eq_some hj with hj | ⟨hj, -⟩
      exacts [absurd ⟨c, hj, hc⟩ (hfree j), hj]
    refine ⟨fun j j' hj hj' => (hnew j hj).trans (hnew j' hj').symm, fun j hj => ?_, fun j hj => ?_⟩
    · rcases getElem?_concat_eq_some hj with hj | ⟨-, hj⟩
      exacts [hs.checked j hj, by cases hj]
    · rcases getElem?_concat_eq_some hj with hj | ⟨-, hj⟩
      exacts [hs.noPanic j hj, by cases hj]
  · exact hs.of_eq (loadStep_frame h).1 (loadStep_frame h).2.1
  · rcases closeStep_cases h with ⟨hj, rfl⟩ | ⟨hj, hcl, rfl⟩ | ⟨hj, hcl, rfl⟩ | ⟨_, _, hj, rfl⟩
    · refine hs.set hj rfl rfl rfl (by split_ifs <;> simp) fun h => ?_
      by_cases hcl : s.driver.closed = true <;> simp [hcl] at h ⊢
    · simp [hs.checked j hj] at hcl
    · refine ⟨fun j₁ j₂ h₁ h₂ => hs.single j₁ j₂ (closeInProgress_of_set hj rfl rfl h₁)
        (closeInProgress_of_set hj rfl rfl h₂), fun j' hj' => ?_, fun j' hj' => ?_⟩ <;>
        rcases getElem?_set_eq_some hj' with ⟨-, hc⟩ | ⟨hne, hj'⟩
      · cases hc
      · exact absurd (hs.single j' j ⟨_, hj', rfl⟩ ⟨_, hj, rfl⟩) hne
      · cases hc
      · exact hs.noPanic j' hj'
    · exact hs.set hj rfl rfl rfl (by simp) (by simp)
  · exact hs.of_eq (catalogStep_frame h).2.1 (catalogStep_frame h).2.2.1

theorem CloseSeqInv.run {acts : List Action} {s s' : Sys} (hs : CloseSeqInv s)
    (hseq : SeqCloses s acts = true) (h : s.run acts = some s') : CloseSeqInv s' := by
  induction acts generalizing s with
  | nil => cases h; exact hs
  | cons a acts ih =>
    obtain ⟨s₁, h₁, h⟩ := Option.bind_eq_some.1 h
    obtain ⟨hfree, hseq⟩ := SeqCloses.cons hseq h₁
    exact ih (hs.step hfree h₁) hseq h

end Sys

/-- **`Close` calls that do not overlap never panic.** In every run of a new driver in which
`Close` is called only while no earlier `Close` is in progress, whatever the `Load` calls and
`EnsureCatalog` do in between, no `Close` reaches `close(a.closed)` on a closed channel: the
first one closes it, and every later one returns at its `IsClosed()` check. -/
theorem closes_in_turn_never_panic {sourceID type : String} {catalogProvided : Bool}
    {acts : List Action} {s : Sys}
    (hseq : Sys.SeqCloses (Sys.new sourceID type catalogProvided) acts = true)
    (h : (Sys.new sourceID type catalogProvided).run acts = some s) (j : Nat) :
    s.closes[j]? ≠ some .panicked := by
  have h₀ : Sys.CloseSeqInv (Sys.new sourceID type catalogProvided) := by
    refine ⟨fun _ _ ⟨_, h, _⟩ => ?_, fun _ h => ?_, fun _ h => ?_⟩ <;> cases h
  exact (h₀.run hseq h).noPanic j

/-- Two `Close` calls one after the other, with a `Load` of task `sync-1` between them. -/
def sampleCloses : List Action :=
  [.callClose, .closeCheck 0, .callLoad "sync-1", .closeChannel 0,
    .closeKill 0 .listed fun _ => .ok, .loadCheck 0, .callClose, .closeCheck 1]

/-- The driver after the two `Close` calls of the sample. -/
def sampleClosed : Sys :=
  ⟨⟨"source", "airbyte", true, ∅, true, none, 0, some []⟩,
    [("sync-1", .done (some "airbyte has already been closed"))], [.done [], .done []], .loop⟩

theorem sample_closes_in_turn_never_panic :
    Sys.SeqCloses (Sys.new "source" "airbyte" true) sampleCloses = true ∧
      (Sys.new "source" "airbyte" true).run sampleCloses = some sampleClosed ∧
      sampleClosed.closes[1]? ≠ some .panicked :=
  ⟨rfl, rfl, closes_in_turn_never_panic
    (show Sys.SeqCloses (Sys.new "source" "airbyte" true) sampleCloses = true from rfl)
    (show (Sys.new "source" "airbyte" true).run sampleCloses = some sampleClosed from rfl) 1⟩

end Jitsu.Airbyte
