import Jitsu.Destinations.GoMap

/-! # The Snowflake storage: what `NewSnowflake` opens and what `Close` closes

`server/storages/snowflake.go` builds a Snowflake storage in `NewSnowflake` and releases it in
`Close`. The adapters, the loggers and the streaming worker live outside the files we have, so the
model asks them for their answers and follows the storage's own control flow around them:

* **`Collaborators`** holds the answer of every call `NewSnowflake` makes, one field per call
  site; a Go `error` is an `Option String`, `nil` being `none`.
* **`Resource`** and **`Event`** form a ghost log of what is opened and closed: the stage adapter,
  each Snowflake connection (by the schema it was opened with, so the schema-less connection of
  `CreateSnowflakeAdapter` is `snowflakeAdapter ""`), the loggers of the `Abstract` part and the
  streaming worker. **`replay`** runs a log against the list of open resources and fails on an
  open of what is open or a close of what is not.
* **`newSnowflake`**, **`createSnowflakeAdapter`** and **`Snowflake.close`** follow the source.
  A storage that was built and then closed leaves nothing open and closes nothing twice
  (`newSnowflake_close_releases_each_once`). A failed build leaves nothing open, except when the
  streaming worker is the call that failed: then the Snowflake connection, the loggers and, in
  batch mode, the stage stay open with no storage left to close them
  (`newSnowflake_error_leaves_open_only_at_worker`). -/

namespace Jitsu.Storages

open Jitsu.Destinations (GoMap)

/-! ## (1) Configuration and the answers of the collaborators -/

/-- The fields of `adapters.SnowflakeConfig` that `NewSnowflake` reads or writes. -/
structure SnowflakeConfig where
  /-- `Schema`. -/
  schema : String
  /-- `Stage`, required with a Google Cloud integration. -/
  stage : String
  /-- `Parameters`, the session parameters of the connection (a `*string` by its text). -/
  parameters : GoMap String

/-- **The defaults `NewSnowflake` fills in**: the schema `PUBLIC` when none is given, and the
session parameter `client_session_keep_alive` set to `true` when it is absent. -/
def SnowflakeConfig.withDefaults (sc : SnowflakeConfig) : SnowflakeConfig :=
  { sc with
    schema := if sc.schema = "" then "PUBLIC" else sc.schema
    parameters := if (sc.parameters.lookup "client_session_keep_alive").isSome then sc.parameters
      else sc.parameters.insert "client_session_keep_alive" "true" }

/-- Every config `NewSnowflake` connects with names a schema and sets
`client_session_keep_alive`. -/
theorem withDefaults_schema_keepAlive (sc : SnowflakeConfig) :
    sc.withDefaults.schema ≠ "" ∧
      (sc.withDefaults.parameters.lookup "client_session_keep_alive").isSome := by
  dsimp only [SnowflakeConfig.withDefaults]
  constructor
  · split <;> simp_all
  · split <;> simp_all

/-- The fields of `storages.Config` that `NewSnowflake` reads. -/
structure Config where
  /-- `destinationID`. -/
  destinationID : String
  /-- `streamMode`: events come from a queue rather than in batch files. -/
  streamMode : Bool

/-- The answer of `adapters.NewSnowflake`: connected, or an error; `schemaMissing` tells an
`*sf.SnowflakeError` numbered `ErrObjectNotExistOrAuthorized` from any other error. -/
inductive Connect
  | connected
  | failed (err : String) (schemaMissing : Bool)
  deriving DecidableEq, Repr

/-- The stage adapters `NewSnowflake` can open. -/
inductive StageKind
  | s3
  | googleCloudStorage
  deriving DecidableEq, Repr

/-- The answers of the calls `NewSnowflake` and `CreateSnowflakeAdapter` make, one field per call
site. None of these functions is in the source we have. -/
structure Collaborators where
  /-- `config.destination.GetDestConfig(..)`. -/
  getDestConfig : Except String SnowflakeConfig
  /-- `config.destination.GetConfig(.., &adapters.GoogleConfig{})`; `true` when the value it
  returns is a `*adapters.GoogleConfig`. -/
  getGoogleConfig : Except String Bool
  /-- `googleConfig.Validate()`. -/
  googleValidate : Option String
  /-- `googleConfig.ValidateBatchMode()`. -/
  googleValidateBatchMode : Option String
  /-- `config.destination.GetConfig(.., &adapters.S3Config{})`; `true` when the value it returns
  is a `*adapters.S3Config`. -/
  getS3Config : Except String Bool
  /-- `adapters.NewS3(s3config)`. -/
  newS3 : Option String
  /-- `adapters.NewGoogleCloudStorage(config.ctx, googleConfig)`. -/
  newGoogleCloudStorage : Option String
  /-- The first `adapters.NewSnowflake` of `CreateSnowflakeAdapter`. -/
  snowflakeAdapter : Connect
  /-- `adapters.NewSnowflake` without a schema, once the schema was found missing. -/
  tmpSnowflakeAdapter : Option String
  /-- `tmpSnowflakeAdapter.CreateDbSchema(schema)`. -/
  createDbSchema : String → Option String
  /-- `adapters.NewSnowflake` once the schema is created. -/
  snowflakeAdapterWithSchema : Option String
  /-- `newStreamingWorker(..)`. -/
  newStreamingWorker : Option String

/-! ## (2) The ledger of open resources -/

/-- What a Snowflake storage opens and must close. -/
inductive Resource
  /-- `stageAdapter`. -/
  | stage (kind : StageKind)
  /-- A connection made by `adapters.NewSnowflake`, by the schema it was opened with. -/
  | snowflakeAdapter (schema : String)
  /-- The fallback and archive loggers of the `Abstract` part, closed by `s.close()`. -/
  | loggers
  /-- `streamingWorker`. -/
  | streamingWorker
  deriving DecidableEq, Repr

/-- One entry of the ghost log. -/
inductive Event
  | acquire (r : Resource)
  | release (r : Resource)
  deriving DecidableEq, Repr

/-- One entry of the log against the open resources: open only what is not open, close only
what is. -/
def Event.apply (held : List Resource) : Event → Option (List Resource)
  | .acquire r => if r ∈ held then none else some (r :: held)
  | .release r => if r ∈ held then some (held.erase r) else none

/-- **Replaying a log**: the resources open at its end, or `none` if it opens something twice or
closes something not open. -/
def replay (held : List Resource) : List Event → Option (List Resource)
  | [] => some held
  | e :: es => (e.apply held).bind fun held' => replay held' es

@[simp] theorem replay_nil (held : List Resource) : replay held [] = some held := rfl

@[simp] theorem replay_cons (held : List Resource) (e : Event) (es : List Event) :
    replay held (e :: es) = (e.apply held).bind fun held' => replay held' es := rfl

theorem replay_append (held : List Resource) (l₁ l₂ : List Event) :
    replay held (l₁ ++ l₂) = (replay held l₁).bind fun held' => replay held' l₂ := by
  induction l₁ generalizing held with
  | nil => rfl
  | cons e es ih =>
    simp only [List.cons_append, replay_cons, ih]
    cases e.apply held <;> rfl

/-- Closing, in any order, exactly what is open leaves nothing open. -/
theorem replay_release_perm {held rs : List Resource} (hp : held.Perm rs) :
    replay held (rs.map .release) = some [] := by
  induction rs generalizing held with
  | nil => simp [hp.eq_nil]
  | cons r rs ih =>
    have hr : r ∈ held := hp.symm.subset (List.mem_cons_self r rs)
    simpa [Event.apply, hr] using ih (by simpa using hp.erase r)

/-! ## (3) `NewSnowflake` and `CreateSnowflakeAdapter` -/

/-- The fields of `Snowflake` that `Close` reads. -/
structure Snowflake where
  /-- `destinationID` of the `Abstract` part. -/
  destinationID : String
  /-- `stageAdapter`, `nil` in stream mode. -/
  stageAdapter : Option StageKind
  /-- `snowflakeAdapter`, by the schema it was opened with. -/
  snowflakeAdapter : String
  /-- `streamingWorker != nil`. -/
  streamingWorker : Bool
  deriving DecidableEq, Repr

/-- **`CreateSnowflakeAdapter`**: connect with the schema; when the schema does not exist, connect
without it, create it and connect again, closing the schema-less connection on return (its
`defer`). -/
def createSnowflakeAdapter (c : Collaborators) (config : SnowflakeConfig) :
    Except String String × List Event :=
  match c.snowflakeAdapter with
  | .connected => (.ok config.schema, [.acquire (.snowflakeAdapter config.schema)])
  | .failed err false => (.error err, [])
  | .failed _ true =>
    match c.tmpSnowflakeAdapter with
    | some err => (.error err, [])
    | none =>
      let tmp := Resource.snowflakeAdapter ""
      match c.createDbSchema config.schema with
      | some err => (.error err, [.acquire tmp, .release tmp])
      | none =>
        match c.snowflakeAdapterWithSchema with
        | some err => (.error err, [.acquire tmp, .release tmp])
        | none =>
          (.ok config.schema,
            [.acquire tmp, .acquire (.snowflakeAdapter config.schema), .release tmp])

/-- The lines of `NewSnowflake` that check a Google Cloud integration. -/
def checkGoogleConfig (streamMode : Bool) (c : Collaborators) (sc : SnowflakeConfig) :
    Option String :=
  match c.getGoogleConfig with
  | .error err => some err
  | .ok false => none
  | .ok true =>
    match c.googleValidate, streamMode, c.googleValidateBatchMode with
    | some err, _, _ => some err
    | none, false, some err => some err
    | _, _, _ =>
      if sc.stage = "" then some "Snowflake stage is required parameter in GCP integration"
      else none

/-- The lines of `NewSnowflake` that open the stage adapter, in batch mode only: S3 when an S3
config is given, Google Cloud Storage otherwise. -/
def newStageAdapter (streamMode : Bool) (c : Collaborators) : Except String (Option StageKind) :=
  match c.getS3Config with
  | .error err => .error err
  | .ok s3ok =>
    if streamMode then .ok none
    else if s3ok then (match c.newS3 with | some err => .error err | none => .ok (some .s3))
    else
      match c.newGoogleCloudStorage with
      | some err => .error err
      | none => .ok (some .googleCloudStorage)

/-- **`NewSnowflake`**: the storage and the log of what it opened and closed on the way. On an
error of `CreateSnowflakeAdapter` the stage is closed; on an error of `newStreamingWorker`
nothing is. -/
def newSnowflake (config : Config) (c : Collaborators) : Except String Snowflake × List Event :=
  match c.getDestConfig with
  | .error err => (.error err, [])
  | .ok sc =>
    let sc := sc.withDefaults
    match checkGoogleConfig config.streamMode c sc with
    | some err => (.error err, [])
    | none =>
      match newStageAdapter config.streamMode c with
      | .error err => (.error err, [])
      | .ok stage =>
        let opened := stage.toList.map fun k => Event.acquire (.stage k)
        match createSnowflakeAdapter c sc with
        | (.error err, log) =>
          (.error err, opened ++ log ++ stage.toList.map fun k => Event.release (.stage k))
        | (.ok adapter, log) =>
          let built := opened ++ log ++ [.acquire .loggers]
          match c.newStreamingWorker with
          | some err => (.error err, built)
          | none =>
            (.ok ⟨config.destinationID, stage, adapter, true⟩,
              built ++ [.acquire .streamingWorker])

/-! ## (4) `Close` -/

/-- The answers of the closes `Close` makes. -/
structure CloseAnswers where
  /-- `s.snowflakeAdapter.Close()`. -/
  snowflakeAdapter : Option String
  /-- `s.stageAdapter.Close()`. -/
  stageAdapter : Option String
  /-- `s.streamingWorker.Close()`. -/
  streamingWorker : Option String
  /-- `s.close()`, the `Abstract` part. -/
  abstract : Option String

/-- The text `Close` wraps a failed close in: `[%s] Error closing <what>: %v`. -/
def closeError (destinationID what err : String) : String :=
  "[" ++ destinationID ++ "] Error closing " ++ what ++ ": " ++ err

/-- **`(*Snowflake).Close`**: close the connection, the stage and the worker when present, then
the `Abstract` part, collecting every error (the `multierror`, `nil` when the list is empty). -/
def Snowflake.close (s : Snowflake) (a : CloseAnswers) : List String × List Event :=
  ((a.snowflakeAdapter.map (closeError s.destinationID "snowflake datasource")).toList ++
      (if s.stageAdapter.isSome then
        (a.stageAdapter.map (closeError s.destinationID "snowflake stage")).toList else []) ++
      (if s.streamingWorker then
        (a.streamingWorker.map (closeError s.destinationID "streaming worker")).toList else []) ++
      a.abstract.toList,
    .release (.snowflakeAdapter s.snowflakeAdapter) ::
      (s.stageAdapter.toList.map fun k => .release (.stage k)) ++
      (if s.streamingWorker then [.release .streamingWorker] else []) ++ [.release .loggers])

/-- What a storage holds, in the order `Close` closes it. -/
def Snowflake.resources (s : Snowflake) : List Resource :=
  .snowflakeAdapter s.snowflakeAdapter :: s.stageAdapter.toList.map .stage ++
    (if s.streamingWorker then [.streamingWorker] else []) ++ [.loggers]

/-- `Close` closes exactly what the storage holds. -/
theorem close_log (s : Snowflake) (a : CloseAnswers) :
    (s.close a).2 = s.resources.map .release := by
  simp only [Snowflake.close, Snowflake.resources, List.map_cons, List.map_append,
    List.map_map]
  split <;> rfl

theorem toList_eq_nil_iff {α : Type} (o : Option α) : o.toList = [] ↔ o = none := by
  cases o <;> simp

/-- `Close` returns `nil` exactly when every close it makes succeeds. -/
theorem close_errors_nil_iff (s : Snowflake) (a : CloseAnswers) :
    (s.close a).1 = [] ↔ a.snowflakeAdapter = none ∧
      (s.stageAdapter.isSome → a.stageAdapter = none) ∧
      (s.streamingWorker → a.streamingWorker = none) ∧ a.abstract = none := by
  simp only [Snowflake.close, List.append_eq_nil, toList_eq_nil_iff, Option.map_eq_none']
  constructor
  · rintro ⟨⟨⟨h₁, h₂⟩, h₃⟩, h₄⟩
    exact ⟨h₁, fun hs => by simpa [hs, toList_eq_nil_iff] using h₂,
      fun hw => by simpa [hw, toList_eq_nil_iff] using h₃, h₄⟩
  · rintro ⟨h₁, h₂, h₃, h₄⟩
    refine ⟨⟨⟨h₁, ?_⟩, ?_⟩, h₄⟩
    · split <;> simp_all
    · split <;> simp_all

/-! ## (5) What a build leaves open -/

/-- The stage `NewSnowflake` opens, if any, is the only thing open before the connection. -/
theorem replay_opened (stage : Option StageKind) :
    replay [] (stage.toList.map fun k => Event.acquire (.stage k)) =
      some (stage.toList.map .stage) := by
  cases stage <;> rfl

/-- In batch mode and only there, `NewSnowflake` opens a stage adapter. -/
theorem newStageAdapter_isSome {streamMode : Bool} {c : Collaborators} {stage : Option StageKind}
    (h : newStageAdapter streamMode c = .ok stage) : stage.isSome = !streamMode := by
  unfold newStageAdapter at h
  split at h
  · cases h
  · split at h
    · cases h; simp_all
    · split at h
      · split at h <;> cases h; simp_all
      · split at h <;> cases h; simp_all

section Adapter

variable {c : Collaborators} {sc : SnowflakeConfig} {log : List Event}

/-- **`CreateSnowflakeAdapter` on success** returns the connection made with the schema it was
given, and of the connections it made only that one is still open. -/
theorem createSnowflakeAdapter_ok {a : String} (h : createSnowflakeAdapter c sc = (.ok a, log))
    (hs : sc.schema ≠ "") (held : List Resource) (h₀ : .snowflakeAdapter "" ∉ held)
    (h₁ : .snowflakeAdapter sc.schema ∉ held) :
    a = sc.schema ∧ replay held log = some (.snowflakeAdapter sc.schema :: held) := by
  unfold createSnowflakeAdapter at h
  split at h
  · cases h; simp [Event.apply, h₁]
  · cases h
  · split at h
    · cases h
    split at h
    · cases h
    split at h
    · cases h
    cases h
    simp [Event.apply, h₀, h₁, hs]

/-- **`CreateSnowflakeAdapter` on failure** leaves no connection open. -/
theorem createSnowflakeAdapter_error {e : String}
    (h : createSnowflakeAdapter c sc = (.error e, log)) (held : List Resource)
    (h₀ : .snowflakeAdapter "" ∉ held) : replay held log = some held := by
  unfold createSnowflakeAdapter at h
  split at h
  · cases h
  · cases h; rfl
  · split at h
    · cases h; rfl
    split at h
    · cases h; simp [Event.apply, h₀]
    split at h
    · cases h; simp [Event.apply, h₀]
    · cases h

end Adapter

/-- **The ways `NewSnowflake` can end**: with an error and nothing logged, before any stage
adapter; with an error of `CreateSnowflakeAdapter`, the stage opened and closed around its log;
or once the connection and the loggers are open, with the streaming worker failing or the storage
built. -/
theorem newSnowflake_cases {config : Config} {c : Collaborators} {r : Except String Snowflake}
    {log : List Event} (h : newSnowflake config c = (r, log)) :
    (∃ e, r = .error e ∧ log = []) ∨ ∃ sc stage, c.getDestConfig = .ok sc ∧
      newStageAdapter config.streamMode c = .ok stage ∧
      ((∃ e log₁, createSnowflakeAdapter c sc.withDefaults = (.error e, log₁) ∧
          r = .error e ∧
          log = (stage.toList.map fun k => .acquire (.stage k)) ++ log₁ ++
            stage.toList.map fun k => .release (.stage k)) ∨
        ∃ a log₁, createSnowflakeAdapter c sc.withDefaults = (.ok a, log₁) ∧
          ((∃ e, c.newStreamingWorker = some e ∧ r = .error e ∧
              log = (stage.toList.map fun k => .acquire (.stage k)) ++ log₁ ++
                [.acquire .loggers]) ∨
            c.newStreamingWorker = none ∧ r = .ok ⟨config.destinationID, stage, a, true⟩ ∧
              log = (stage.toList.map fun k => .acquire (.stage k)) ++ log₁ ++
                [.acquire .loggers, .acquire .streamingWorker])) := by
  unfold newSnowflake at h
  rcases hsc : c.getDestConfig with e | sc
  · simp only [hsc, Prod.mk.injEq] at h
    exact .inl ⟨e, h.1.symm, h.2.symm⟩
  cases hg : checkGoogleConfig config.streamMode c sc.withDefaults with
  | some e =>
    simp only [hsc, hg, Prod.mk.injEq] at h
    exact .inl ⟨e, h.1.symm, h.2.symm⟩
  | none =>
  rcases hst : newStageAdapter config.streamMode c with e | stage
  · simp only [hsc, hg, hst, Prod.mk.injEq] at h
    exact .inl ⟨e, h.1.symm, h.2.symm⟩
  refine .inr ⟨sc, stage, rfl, rfl, ?_⟩
  rcases hcsa : createSnowflakeAdapter c sc.withDefaults with ⟨e | a, log₁⟩
  · simp only [hsc, hg, hst, hcsa, Prod.mk.injEq] at h
    exact .inl ⟨e, log₁, rfl, h.1.symm, h.2.symm⟩
  refine .inr ⟨a, log₁, rfl, ?_⟩
  cases hw : c.newStreamingWorker with
  | some e =>
    simp only [hsc, hg, hst, hcsa, hw, Prod.mk.injEq] at h
    exact .inl ⟨e, rfl, h.1.symm, h.2.symm⟩
  | none =>
    simp only [hsc, hg, hst, hcsa, hw, Prod.mk.injEq] at h
    exact .inr ⟨rfl, h.1.symm, by simp [← h.2]⟩

/-- **A storage built by `NewSnowflake` and then closed leaves nothing open**: the log of the
build followed by that of `Close` never opens what is open nor closes what is not, and ends with
nothing open, whatever each close answers. The schema-less connection of `CreateSnowflakeAdapter`
is closed before `NewSnowflake` returns; everything else is closed by `Close`, once. -/
theorem newSnowflake_close_releases_each_once {config : Config} {c : Collaborators}
    {s : Snowflake} {log : List Event} (h : newSnowflake config c = (.ok s, log))
    (a : CloseAnswers) : replay [] (log ++ (s.close a).2) = some [] := by
  rcases newSnowflake_cases h with ⟨e, he, -⟩ | ⟨sc, stage, -, -, ⟨e, log₁, -, he, -⟩ |
    ⟨ad, log₁, hcsa, ⟨e, -, he, -⟩ | ⟨-, hs, rfl⟩⟩⟩ <;> try cases he
  cases hs
  obtain ⟨hne, -⟩ := withDefaults_schema_keepAlive sc
  obtain ⟨rfl, hrep⟩ := createSnowflakeAdapter_ok hcsa hne (stage.toList.map .stage)
    (by cases stage <;> simp) (by cases stage <;> simp)
  have hbuilt : replay (.snowflakeAdapter sc.withDefaults.schema :: stage.toList.map .stage)
      [.acquire .loggers, .acquire .streamingWorker] = some ([.streamingWorker, .loggers] ++
        .snowflakeAdapter sc.withDefaults.schema :: stage.toList.map .stage) := by
    cases stage <;> simp [Event.apply]
  rw [close_log, replay_append, replay_append, replay_append, replay_opened, Option.some_bind,
    hrep, Option.some_bind, hbuilt, Option.some_bind]
  exact replay_release_perm (List.perm_append_comm.trans (.of_eq (by simp [Snowflake.resources])))

/-- A batch-mode build on S3 in which the schema had to be created first. -/
def sampleCollaborators : Collaborators where
  getDestConfig := .ok ⟨"", "", ∅⟩
  getGoogleConfig := .ok false
  googleValidate := none
  googleValidateBatchMode := none
  getS3Config := .ok true
  newS3 := none
  newGoogleCloudStorage := none
  snowflakeAdapter := .failed "Schema 'PUBLIC' does not exist or not authorized." true
  tmpSnowflakeAdapter := none
  createDbSchema := fun _ => none
  snowflakeAdapterWithSchema := none
  newStreamingWorker := none

/-- The log of the build of `sampleCollaborators`: the stage, the schema-less connection opened
and closed around the connection with the schema `PUBLIC`, the loggers and the worker. -/
def sampleBuildLog : List Event :=
  [.acquire (.stage .s3), .acquire (.snowflakeAdapter ""), .acquire (.snowflakeAdapter "PUBLIC"),
    .release (.snowflakeAdapter ""), .acquire .loggers, .acquire .streamingWorker]

example :
    newSnowflake ⟨"snowflake", false⟩ sampleCollaborators =
      (.ok ⟨"snowflake", some .s3, "PUBLIC", true⟩, sampleBuildLog) ∧
    replay [] (sampleBuildLog ++
      (Snowflake.close ⟨"snowflake", some .s3, "PUBLIC", true⟩
        ⟨none, some "timeout", none, none⟩).2)
      = some [] :=
  ⟨rfl, @newSnowflake_close_releases_each_once ⟨"snowflake", false⟩ sampleCollaborators _ _
    rfl _⟩

/-- **A failed `NewSnowflake` leaves something open only when the streaming worker failed.** Every
earlier failure closes what it opened: the schema-less connection inside `CreateSnowflakeAdapter`,
and the stage when `CreateSnowflakeAdapter` fails. When `newStreamingWorker` fails, the Snowflake
connection, the loggers and, exactly in batch mode, the stage stay open, and no storage is
returned that could close them. -/
theorem newSnowflake_error_leaves_open_only_at_worker {config : Config} {c : Collaborators}
    {e : String} {log : List Event} (h : newSnowflake config c = (.error e, log)) :
    replay [] log = some [] ∨
      c.newStreamingWorker = some e ∧ ∃ (schema : String) (stage : Option StageKind),
        stage.isSome = !config.streamMode ∧
        replay [] log = some (.loggers :: .snowflakeAdapter schema :: stage.toList.map .stage) := by
  rcases newSnowflake_cases h with ⟨e, -, rfl⟩ |
    ⟨sc, stage, -, hst, ⟨e', log₁, hcsa, -, rfl⟩ |
    ⟨ad, log₁, hcsa, ⟨e', hw, he, rfl⟩ | ⟨-, he, -⟩⟩⟩
  · exact .inl rfl
  · left
    rw [replay_append, replay_append, replay_opened, Option.some_bind,
      createSnowflakeAdapter_error hcsa _ (by cases stage <;> simp), Option.some_bind]
    cases stage <;> simp [Event.apply]
  · cases he
    obtain ⟨rfl, hrep⟩ := createSnowflakeAdapter_ok hcsa (withDefaults_schema_keepAlive sc).1
      (stage.toList.map .stage) (by cases stage <;> simp) (by cases stage <;> simp)
    refine .inr ⟨hw, sc.withDefaults.schema, stage, newStageAdapter_isSome hst, ?_⟩
    rw [replay_append, replay_append, replay_opened, Option.some_bind, hrep, Option.some_bind]
    cases stage <;> simp [Event.apply]
  · cases he

example :
    newSnowflake ⟨"snowflake", false⟩
        { sampleCollaborators with newStreamingWorker := some "nil" } =
      (.error "nil", sampleBuildLog.dropLast) ∧
    (replay [] sampleBuildLog.dropLast = some [] ∨
      some "nil" = some "nil" ∧ ∃ (schema : String) (stage : Option StageKind),
        stage.isSome = !false ∧
        replay [] sampleBuildLog.dropLast =
          some (.loggers :: .snowflakeAdapter schema :: stage.toList.map .stage)) ∧
    replay [] sampleBuildLog.dropLast =
      some [.loggers, .snowflakeAdapter "PUBLIC", .stage .s3] :=
  ⟨rfl, @newSnowflake_error_leaves_open_only_at_worker ⟨"snowflake", false⟩
    { sampleCollaborators with newStreamingWorker := some "nil" } _ _ rfl, rfl⟩

end Jitsu.Storages
