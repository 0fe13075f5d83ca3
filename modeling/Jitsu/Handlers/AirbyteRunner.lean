import Mathlib.Logic.Basic

/-! # The Airbyte spec and catalog handlers

`SpecHandler` and `CatalogHandler` of `server/handlers/airbyte.go` answer for one Airbyte image
by running it: they check the image name of the path, read the `image_version` query (the latest
version when it is empty), create the runner `airbyte.NewRunner(dockerImage, imageVersion, "")`
and map its answer to the reply, a `SpecResponse` or a `CatalogResponse`. `CatalogHandler` also
parses the request body as the connector config before it creates the runner, which
`SpecHandler` does not:

* **`RunnerError`** is the error the runner returns, `runner.ErrNotReady` apart from any other;
  **`Reply`** is the body of the reply and **`HandlerRun`** what a handler does for one request:
  the status and body of its reply, and the runner it created.
* **`runAirbyte`** is the part the two handlers share once the request is read, given the
  runner's call and the response that wraps its result; **`specHandler`** and
  **`catalogHandler`** follow the source around it.
* A handler creates a runner exactly for a request it can serve: an image name and, for
  `CatalogHandler`, a body that parses; the runner is for that image at the version asked or,
  when none is asked, the latest (`specHandler_runner_eq_some_iff`,
  `catalogHandler_runner_eq_some_iff`). The status of every reply agrees with its body: `400`
  for an error, `200` for the pending reply and for a result (`airbyteHandlers_status_agrees`);
  a result of `SpecHandler` is a `SpecResponse` and one of `CatalogHandler` a `CatalogResponse`
  (`airbyteHandlers_response_kind`). -/

namespace Jitsu.Handlers

/-! ## (1) Runners and replies -/

/-- An error `Spec()` or `Discover(..)` of an Airbyte runner returns. -/
inductive RunnerError
  /-- `runner.ErrNotReady`: the image is not pulled yet. -/
  | notReady
  /-- Any other error, through `err.Error()`. -/
  | failed (message : String)
  deriving DecidableEq, Repr

/-- The body of a reply built on `middleware.StatusResponse`. -/
inductive Reply (Spec Catalog : Type)
  /-- `middleware.ErrResponse(message, err)`. -/
  | error (message : String) (err : Option String)
  /-- `middleware.PendingResponse()`. -/
  | pending
  /-- `SpecResponse{StatusResponse: middleware.OKResponse(), Spec: spec}`. -/
  | specResponse (spec : Spec)
  /-- `CatalogResponse{StatusResponse: middleware.OKResponse(), Catalog: catalogRow}`. -/
  | catalogResponse (catalog : Catalog)
  deriving DecidableEq, Repr

/-- Whether a reply is an error. -/
def Reply.isError {Spec Catalog : Type} : Reply Spec Catalog → Bool
  | .error _ _ => true
  | _ => false

/-- Whether a reply is a `CatalogResponse`. -/
def Reply.isCatalog {Spec Catalog : Type} : Reply Spec Catalog → Bool
  | .catalogResponse _ => true
  | _ => false

/-- Whether a reply is a `SpecResponse`. -/
def Reply.isSpec {Spec Catalog : Type} : Reply Spec Catalog → Bool
  | .specResponse _ => true
  | _ => false

/-- The runner `airbyte.NewRunner(dockerImage, imageVersion, "")` a handler created. -/
structure RunnerCall where
  /-- `dockerImage`. -/
  dockerImage : String
  /-- `imageVersion`. -/
  imageVersion : String
  deriving DecidableEq, Repr

/-- What a handler does for one request. -/
structure HandlerRun (Spec Catalog : Type) where
  /-- The status code of `c.JSON`. -/
  status : Nat
  /-- The body of `c.JSON`. -/
  reply : Reply Spec Catalog
  /-- The runner the handler created, if any. -/
  runner : Option RunnerCall
  deriving DecidableEq, Repr

/-- The status of the reply agrees with its body: `400` for an error, `200` otherwise. -/
def HandlerRun.StatusAgrees {Spec Catalog : Type} (run : HandlerRun Spec Catalog) : Prop :=
  run.status = if run.reply.isError then 400 else 200

/-! ## (2) The handlers -/

/-- The reply to a request without an image name. -/
def dockerImageRequired {Spec Catalog : Type} : HandlerRun Spec Catalog :=
  ⟨400, .error "docker image name is required path parameter" none, none⟩

/-- The `image_version` query, `airbyte.LatestVersion` when it is empty. -/
def imageVersionOf (latestVersion imageVersion : String) : String :=
  if imageVersion = "" then latestVersion else imageVersion

/-- **The part the two handlers share** once the request is read: create the runner for the
image at the version asked, run it (`run` is `Spec()` or `Discover(config)`) and map its answer
to the reply, wrapping a result in `response`. -/
def runAirbyte {Spec Catalog α : Type} (latestVersion dockerImage imageVersion : String)
    (run : String → String → Except RunnerError α) (response : α → Reply Spec Catalog) :
    HandlerRun Spec Catalog :=
  let imageVersion := imageVersionOf latestVersion imageVersion
  let runner : RunnerCall := ⟨dockerImage, imageVersion⟩
  match run dockerImage imageVersion with
  | .error .notReady => ⟨200, .pending, some runner⟩
  | .error (.failed message) => ⟨400, .error message none, some runner⟩
  | .ok payload => ⟨200, response payload, some runner⟩

/-- **`SpecHandler`** for the path parameter `dockerImage` and the `image_version` query, given
`airbyte.LatestVersion` and what `Spec()` of a runner answers. -/
def specHandler {Spec Catalog : Type} (latestVersion : String)
    (spec : String → String → Except RunnerError Spec) (dockerImage imageVersion : String) :
    HandlerRun Spec Catalog :=
  if dockerImage = "" then dockerImageRequired
  else runAirbyte latestVersion dockerImage imageVersion spec .specResponse

/-- **`CatalogHandler`** for the path parameter `dockerImage`, the body as `c.BindJSON` parses it
and the `image_version` query, given `airbyte.LatestVersion` and what `Discover(config)` of a
runner answers. -/
def catalogHandler {Spec Config Catalog : Type} (latestVersion : String)
    (discover : String → String → Config → Except RunnerError Catalog) (dockerImage : String)
    (body : Except String Config) (imageVersion : String) : HandlerRun Spec Catalog :=
  if dockerImage = "" then dockerImageRequired
  else
    match body with
    | .error err => ⟨400, .error "Failed to parse body" (some err), none⟩
    | .ok config =>
      runAirbyte latestVersion dockerImage imageVersion
        (fun image version => discover image version config) .catalogResponse

/-! ## (3) The shared part -/

section Run

variable {Spec Catalog α : Type} {latestVersion dockerImage imageVersion : String}
  {run : String → String → Except RunnerError α} {response : α → Reply Spec Catalog}

/-- `runAirbyte` always creates the runner for the image at the version asked, or the latest. -/
@[simp] theorem runAirbyte_runner :
    (runAirbyte latestVersion dockerImage imageVersion run response).runner =
      some ⟨dockerImage, imageVersionOf latestVersion imageVersion⟩ := by
  unfold runAirbyte
  dsimp only
  split <;> rfl

/-- The status agrees with the body when the response that wraps a result is not an error. -/
theorem runAirbyte_statusAgrees (hr : ∀ a, (response a).isError = false) :
    (runAirbyte latestVersion dockerImage imageVersion run response).StatusAgrees := by
  unfold runAirbyte HandlerRun.StatusAgrees
  dsimp only
  split
  · rfl
  · rfl
  · simp [hr]

end Run

/-! ## (4) What the handlers do -/

/-- **`SpecHandler` creates a runner exactly for a request with an image name**, for that image
at the version asked or, when none is asked, the latest. -/
theorem specHandler_runner_eq_some_iff {Spec Catalog : Type} (latestVersion : String)
    (spec : String → String → Except RunnerError Spec) (dockerImage imageVersion : String)
    (r : RunnerCall) :
    (specHandler latestVersion spec dockerImage imageVersion : HandlerRun Spec Catalog).runner =
      some r ↔
      dockerImage ≠ "" ∧ r = ⟨dockerImage, imageVersionOf latestVersion imageVersion⟩ := by
  unfold specHandler
  split
  · simp [dockerImageRequired, *]
  · simp [*, eq_comm]

/-- **`CatalogHandler` creates a runner exactly for a request with an image name and a body that
parses**, for that image at the version asked or, when none is asked, the latest. -/
theorem catalogHandler_runner_eq_some_iff {Spec Config Catalog : Type} (latestVersion : String)
    (discover : String → String → Config → Except RunnerError Catalog) (dockerImage : String)
    (body : Except String Config) (imageVersion : String) (r : RunnerCall) :
    (catalogHandler latestVersion discover dockerImage body imageVersion :
      HandlerRun Spec Catalog).runner = some r ↔
      dockerImage ≠ "" ∧ (∃ config, body = .ok config) ∧
        r = ⟨dockerImage, imageVersionOf latestVersion imageVersion⟩ := by
  unfold catalogHandler
  split
  · simp [dockerImageRequired, *]
  · cases body <;> simp [*, eq_comm]

/-- **The status of every reply of the two handlers agrees with its body**: `400` for an error,
`200` for the pending reply and for a result, whatever the request and the runner's answer. -/
theorem airbyteHandlers_status_agrees {Spec Config Catalog : Type} (latestVersion : String)
    (spec : String → String → Except RunnerError Spec)
    (discover : String → String → Config → Except RunnerError Catalog)
    (dockerImage : String) (body : Except String Config) (imageVersion : String) :
    (specHandler latestVersion spec dockerImage imageVersion : HandlerRun Spec Catalog).StatusAgrees ∧
      (catalogHandler latestVersion discover dockerImage body imageVersion :
        HandlerRun Spec Catalog).StatusAgrees := by
  constructor
  · unfold specHandler
    split
    · rfl
    · exact runAirbyte_statusAgrees fun _ => rfl
  · unfold catalogHandler
    split
    · rfl
    · split
      · rfl
      · exact runAirbyte_statusAgrees fun _ => rfl

/-- **A result of `SpecHandler` is a `SpecResponse` and one of `CatalogHandler` a
`CatalogResponse`**, whatever the request and the runner's answer: neither handler ever replies
with the other's response. -/
theorem airbyteHandlers_response_kind {Spec Config Catalog : Type} (latestVersion : String)
    (spec : String → String → Except RunnerError Spec)
    (discover : String → String → Config → Except RunnerError Catalog)
    (dockerImage : String) (body : Except String Config) (imageVersion : String) :
    (specHandler latestVersion spec dockerImage imageVersion :
        HandlerRun Spec Catalog).reply.isCatalog = false ∧
      (catalogHandler latestVersion discover dockerImage body imageVersion :
        HandlerRun Spec Catalog).reply.isSpec = false := by
  constructor
  · unfold specHandler runAirbyte
    split
    · rfl
    · dsimp only
      split <;> rfl
  · unfold catalogHandler runAirbyte
    split
    · rfl
    · split
      · rfl
      · dsimp only
        split <;> rfl

end Jitsu.Handlers
