import Mathlib.Data.List.Perm.Basic

/-! # The versions of an Airbyte image on DockerHub

`VersionsHandler` of `server/handlers/airbyte.go` lists the tags of the image `airbyte/<name>` on
DockerHub. `getAvailableDockerVersions` requests the first page of tags and follows the `next`
link of every page until a page has none, sorts the tags and drops the tag `latest`:

* **`DockerHub`** answers the HTTP requests and decodes the JSON bodies, as functions of their
  arguments; **`requestDockerHubTags`** follows the source with its error texts. The tags are
  pointers (`DockerHubTags`): a JSON `null` among the results decodes to `nil`.
* **`collectTags`** is the `for nextURL != ""` loop, run for at most `fuel` turns: Go's loop has no
  bound, so `none` stands for a loop still running. **`Pages`** says what the loop is for: the
  chain of `next` links ends, after `n` requests, with the tags of all its pages or with the
  error of the first request that fails. The loop returns exactly the chain's outcome once the
  fuel covers the chain (`collectTags_eq_some_iff`), and never returns when the links run in a
  cycle (`versionsHandler_never_replies_of_cycle`).
* **`Outcome`** says how a call ends: still running, panicked or returned. The loop over the
  sorted tags, **`versionNames`**, reads `ver.Name` and panics on a `nil` tag;
  `getAvailableDockerVersions` returns the error of the chain, or its versions, and panics
  exactly when the chain holds a `nil` tag (`getAvailableDockerVersions_outcome`).
* **`TagSort`** is the outcome of `sort.Slice`: its comparator calls `time.Parse` with the
  timestamp as the layout and `time.RFC3339Nano` as the value, the two arguments swapped, and
  drops the error, so the order it produces is not the push order; the model takes the sorted
  slice as any permutation of the tags. A reply `200` carries a non-empty list of versions
  without `latest`, which are the names of the tags of the chain up to their order
  (`versionsHandler_ok`). -/

namespace Jitsu.Handlers

/-! ## (1) One page of tags -/

/-- A `DockerHubTag`. -/
structure DockerHubTag where
  /-- `Name`. -/
  name : String
  /-- `TagLastPushed`. -/
  tagLastPushed : String
  deriving DecidableEq, Repr

/-- A `[]*DockerHubTag`: a `nil` pointer is `none`. -/
abbrev DockerHubTags : Type := List (Option DockerHubTag)

/-- A `DockerHubResponse`. -/
structure DockerHubResponse where
  /-- `Next`, empty on the last page. -/
  next : String
  /-- `Results`, a slice of pointers: a JSON `null` in it decodes to `nil` (`none`). -/
  results : DockerHubTags
  deriving DecidableEq, Repr

/-- What `ah.httpClient.Get(reqURL)` and then `ioutil.ReadAll(resp.Body)` answer. -/
inductive HttpAnswer
  /-- `Get` failed; `deadlineExceeded` when `errors.Is(err, context.DeadlineExceeded)`. -/
  | failed (err : String) (deadlineExceeded : Bool)
  /-- A response: its status code and the body, or the error of reading it. -/
  | response (statusCode : Nat) (body : Except String String)

/-- The HTTP client and the JSON decoder, as functions of their arguments. -/
structure DockerHub where
  /-- `ah.httpClient.Get` with the body read. -/
  get : String → HttpAnswer
  /-- `json.Unmarshal(respBody, dhResp)`. -/
  unmarshal : String → Except String DockerHubResponse

/-- `defaultTimeout.String()`, for `defaultTimeout = 40 * time.Second`. -/
def defaultTimeout : String := "40s"

/-- `fmt.Sprintf(dockerHubURLTemplate, owner, image)`. -/
def dockerHubURL (owner image : String) : String :=
  "https://hub.docker.com/v2/repositories/" ++ owner ++ "/" ++ image ++ "/tags?page_size=1000"

/-- **`requestDockerHubTags`**: the tags of one page and its `next` link, or an error. -/
def requestDockerHubTags (hub : DockerHub) (reqURL : String) :
    Except String (DockerHubTags × String) :=
  match hub.get reqURL with
  | .failed _ true => .error ("timeout [" ++ defaultTimeout ++ "] reached")
  | .failed err false => .error err
  | .response _ (.error err) => .error ("Error reading response: " ++ err)
  | .response statusCode (.ok respBody) =>
    if statusCode ≠ 200 then
      .error ("HTTP code = " ++ toString statusCode ++ ", body: " ++ respBody)
    else
      match hub.unmarshal respBody with
      | .error err => .error err
      | .ok dhResp => .ok (dhResp.results, dhResp.next)

/-! ## (2) Following the `next` links -/

/-- The `for nextURL != ""` loop of `getAvailableDockerVersions`, for at most `fuel` turns;
`none` when it is still running. -/
def collectTags (hub : DockerHub) :
    Nat → String → DockerHubTags → Option (Except String DockerHubTags)
  | 0, _, _ => none
  | fuel + 1, nextURL, tags =>
    if nextURL = "" then some (.ok tags)
    else
      match requestDockerHubTags hub nextURL with
      | .error err => some (.error err)
      | .ok (responseVersions, next) => collectTags hub fuel next (tags ++ responseVersions)

/-- **Following the `next` links from `url`** takes `n` turns of the loop and ends with the tags
of all the pages in order, or with the error of the first request that fails. -/
inductive Pages (hub : DockerHub) : String → Nat → Except String DockerHubTags → Prop
  /-- No link left: the loop stops. -/
  | last : Pages hub "" 1 (.ok [])
  /-- The request fails: the loop returns its error. -/
  | fail {url err} : url ≠ "" → requestDockerHubTags hub url = .error err →
      Pages hub url 1 (.error err)
  /-- A page: its tags come before those of the pages after it. -/
  | page {url tags next n r} : url ≠ "" → requestDockerHubTags hub url = .ok (tags, next) →
      Pages hub next n r → Pages hub url (n + 1) (r.map (tags ++ ·))

theorem Pages.pos {hub : DockerHub} {url : String} {n : Nat}
    {r : Except String DockerHubTags} (hp : Pages hub url n r) : 0 < n := by
  cases hp <;> omega

/-- **The loop returns exactly what following the links gives**, once the fuel covers the
turns the chain takes; it returns nothing else, and nothing when the chain does not end. -/
theorem collectTags_eq_some_iff (hub : DockerHub) (fuel : Nat) (url : String)
    (acc : DockerHubTags) (r : Except String DockerHubTags) :
    collectTags hub fuel url acc = some r ↔
      ∃ n res, Pages hub url n res ∧ n ≤ fuel ∧ r = res.map (acc ++ ·) := by
  induction fuel generalizing url acc with
  | zero =>
    simp only [collectTags, reduceCtorEq, false_iff, not_exists, not_and]
    intro n res hp hn
    exact absurd hp.pos (by omega)
  | succ fuel ih =>
    by_cases hu : url = ""
    · subst hu
      simp only [collectTags, if_true, Option.some.injEq]
      constructor
      · rintro rfl
        exact ⟨1, .ok [], .last, by omega, by simp [Except.map]⟩
      · rintro ⟨n, res, hp, -, rfl⟩
        cases hp with
        | last => simp [Except.map]
        | fail h _ => exact absurd rfl h
        | page h _ _ => exact absurd rfl h
    · cases hr : requestDockerHubTags hub url with
      | error err =>
        simp only [collectTags, hu, if_false, hr, Option.some.injEq]
        constructor
        · rintro rfl
          exact ⟨1, .error err, .fail hu hr, by omega, rfl⟩
        · rintro ⟨n, res, hp, -, rfl⟩
          cases hp with
          | last => exact absurd rfl hu
          | fail _ h => rw [hr] at h; cases h; rfl
          | page _ h _ => rw [hr] at h; cases h
      | ok page =>
        obtain ⟨tags, next⟩ := page
        simp only [collectTags, hu, if_false, hr, ih]
        constructor
        · rintro ⟨n, res, hp, hn, rfl⟩
          exact ⟨n + 1, res.map (tags ++ ·), .page hu hr hp, by omega, by
            cases res <;> simp [Except.map]⟩
        · rintro ⟨m, res, hp, hm, rfl⟩
          cases hp with
          | last => exact absurd rfl hu
          | fail _ h => rw [hr] at h; cases h
          | @page _ tags' next' n r _ h hp =>
            rw [hr] at h
            cases h
            exact ⟨n, r, hp, by omega, by cases r <;> simp [Except.map]⟩

/-- A chain that runs in a cycle has no end: no `Pages` derivation starts inside the cycle. -/
theorem Pages.not_of_cycle {hub : DockerHub} (S : String → Prop)
    (hS : ∀ u, S u → u ≠ "" ∧ ∃ tags next, requestDockerHubTags hub u = .ok (tags, next) ∧ S next)
    {url : String} {n : Nat} {r : Except String DockerHubTags} (hp : Pages hub url n r)
    (hu : S url) : False := by
  induction hp with
  | last => exact (hS _ hu).1 rfl
  | fail _ hr =>
    obtain ⟨-, tags, next, h, -⟩ := hS _ hu
    rw [hr] at h
    cases h
  | page _ hr _ ih =>
    obtain ⟨-, tags, next, h, hn⟩ := hS _ hu
    rw [hr] at h
    cases h
    exact ih hn

/-! ## (3) The versions and the handler -/

/-- How a run of the model ends: still `running` when its fuel is spent, `panicked` on a `nil`
dereference, or `returned` with its result. -/
inductive Outcome (α : Type)
  /-- The loop has not returned within the fuel. -/
  | running
  /-- The call panicked. -/
  | panicked
  /-- The call returned `a`. -/
  | returned (a : α)
  deriving DecidableEq, Repr

/-- The outcome with the function applied to its result. -/
def Outcome.map {α β : Type} (f : α → β) : Outcome α → Outcome β
  | .running => .running
  | .panicked => .panicked
  | .returned a => .returned (f a)

@[simp] theorem Outcome.map_eq_running {α β : Type} {f : α → β} {o : Outcome α} :
    o.map f = .running ↔ o = .running := by
  cases o <;> simp [Outcome.map]

@[simp] theorem Outcome.map_eq_returned {α β : Type} {f : α → β} {o : Outcome α} {b : β} :
    o.map f = .returned b ↔ ∃ a, o = .returned a ∧ f a = b := by
  cases o <;> simp [Outcome.map]

/-- The outcome of `sort.Slice(tags, ..)`: some permutation of the tags (see the module
header for why the model cannot say which). Its comparator reads `TagLastPushed` through both
pointers, so among two tags or more a `nil` one panics already here; the model lets the loop
after it panic instead, which ends the call the same way. -/
structure TagSort where
  /-- The sorted slice. -/
  arrange : DockerHubTags → DockerHubTags
  /-- `sort.Slice` only reorders. -/
  perm : ∀ tags, (arrange tags).Perm tags

/-- The sort that leaves the tags as they are. -/
def TagSort.keep : TagSort := ⟨id, fun _ => List.Perm.refl _⟩

/-- The `for _, ver := range tags` loop: it skips the tag `latest` and keeps the names of the
others in order; `ver.Name` on a `nil` tag panics (`none`). -/
def versionNames : DockerHubTags → Option (List String)
  | [] => some []
  | none :: _ => none
  | some ver :: tags =>
    (versionNames tags).map fun versions =>
      if ver.name = "latest" then versions else ver.name :: versions

/-- The version a tag adds to the list, if any. -/
def versionOf (ver : Option DockerHubTag) : Option String :=
  ver.bind fun ver => if ver.name = "latest" then none else some ver.name

/-- **The loop panics exactly on a `nil` tag** and otherwise returns the names of the tags
other than `latest`, in order. -/
theorem versionNames_eq_some_iff {tags : DockerHubTags} {versions : List String} :
    versionNames tags = some versions ↔ none ∉ tags ∧ tags.filterMap versionOf = versions := by
  induction tags generalizing versions with
  | nil => simp [versionNames]
  | cons ver tags ih =>
    rcases ver with _ | ver
    · simp [versionNames]
    · simp only [versionNames, Option.map_eq_some', ih]
      by_cases hl : ver.name = "latest" <;> simp [versionOf, hl, and_assoc]

theorem versionNames_eq_none_iff {tags : DockerHubTags} :
    versionNames tags = none ↔ none ∈ tags := by
  induction tags with
  | nil => simp [versionNames]
  | cons ver tags ih => rcases ver with _ | ver <;> simp [versionNames, ih]

theorem latest_not_mem_of_versionNames {tags : DockerHubTags} {versions : List String}
    (h : versionNames tags = some versions) : "latest" ∉ versions := by
  rw [← (versionNames_eq_some_iff.1 h).2, List.mem_filterMap]
  rintro ⟨_ | ver, -, hv⟩
  · cases hv
  · by_cases hl : ver.name = "latest" <;> simp_all [versionOf]

/-- Sorting does not change whether the loop panics, nor, up to order, what it returns. -/
theorem versionNames_arrange {sort : TagSort} {tags : DockerHubTags} {versions : List String}
    (h : versionNames (sort.arrange tags) = some versions) :
    ∃ names, versionNames tags = some names ∧ versions.Perm names := by
  have hp := sort.perm tags
  obtain ⟨hn, rfl⟩ := versionNames_eq_some_iff.1 h
  exact ⟨_, versionNames_eq_some_iff.2 ⟨fun h => hn (hp.mem_iff.2 h), rfl⟩, hp.filterMap _⟩

/-- **`getAvailableDockerVersions`**, its loop run for at most `fuel` turns. -/
def getAvailableDockerVersions (hub : DockerHub) (sort : TagSort) (fuel : Nat)
    (dockerImageName : String) : Outcome (Except String (List String)) :=
  match collectTags hub fuel (dockerHubURL "airbyte" dockerImageName) [] with
  | none => .running
  | some (.error err) => .returned (.error err)
  | some (.ok tags) =>
    match versionNames (sort.arrange tags) with
    | none => .panicked
    | some versions => .returned (.ok versions)

/-- The loop started with no tags returns what following the links from `url` gives. -/
theorem collectTags_start {hub : DockerHub} {fuel : Nat} {url : String}
    {r : Except String DockerHubTags} :
    collectTags hub fuel url [] = some r ↔ ∃ n, Pages hub url n r ∧ n ≤ fuel := by
  have hid : ∀ res : Except String DockerHubTags, res.map ([] ++ ·) = res := by
    intro res; cases res <;> rfl
  simp only [collectTags_eq_some_iff, hid]
  exact ⟨fun ⟨n, _, hp, hn, he⟩ => ⟨n, he ▸ hp, hn⟩, fun ⟨n, hp, hn⟩ => ⟨n, r, hp, hn, rfl⟩⟩

/-- A chain of pages that ends with tags is what the loop returns. -/
theorem exists_pages_ok {hub : DockerHub} {fuel : Nat} {url : String}
    {P : DockerHubTags → Prop} :
    (∃ n tags, Pages hub url n (.ok tags) ∧ n ≤ fuel ∧ P tags) ↔
      ∃ tags, collectTags hub fuel url [] = some (.ok tags) ∧ P tags := by
  simp only [collectTags_start]
  exact ⟨fun ⟨n, tags, hp, hn, h⟩ => ⟨tags, ⟨n, hp, hn⟩, h⟩,
    fun ⟨tags, ⟨n, hp, hn⟩, h⟩ => ⟨n, tags, hp, hn, h⟩⟩

/-- **What `getAvailableDockerVersions` does, once the fuel covers the chain of pages**: it
returns the error of the first failing request; or, the chain ending, it returns the versions of
all its tags, sorted, and panics exactly when the chain holds a `nil` tag. -/
theorem getAvailableDockerVersions_outcome (hub : DockerHub) (sort : TagSort) (fuel : Nat)
    (dockerImageName : String) :
    (∀ err, getAvailableDockerVersions hub sort fuel dockerImageName = .returned (.error err) ↔
        ∃ n, Pages hub (dockerHubURL "airbyte" dockerImageName) n (.error err) ∧ n ≤ fuel) ∧
      (∀ versions,
        getAvailableDockerVersions hub sort fuel dockerImageName = .returned (.ok versions) ↔
          ∃ n tags, Pages hub (dockerHubURL "airbyte" dockerImageName) n (.ok tags) ∧ n ≤ fuel ∧
            versionNames (sort.arrange tags) = some versions) ∧
      (getAvailableDockerVersions hub sort fuel dockerImageName = .panicked ↔
        ∃ n tags, Pages hub (dockerHubURL "airbyte" dockerImageName) n (.ok tags) ∧ n ≤ fuel ∧
          none ∈ tags) := by
  simp only [← collectTags_start, exists_pages_ok]
  unfold getAvailableDockerVersions
  rcases collectTags hub fuel (dockerHubURL "airbyte" dockerImageName) [] with _ | _ | tags
  · simp
  · simp
  · have hm : none ∈ tags ↔ versionNames (sort.arrange tags) = none := by
      rw [versionNames_eq_none_iff, (sort.perm tags).mem_iff]
    rcases hv : versionNames (sort.arrange tags) with _ | versions <;> simp_all

/-- What `VersionsHandler` replies, with its status code. -/
inductive VersionsReply
  /-- `middleware.ErrResponse(message, nil)`. -/
  | error (message : String)
  /-- `VersionsResponse{Versions: versions}`. -/
  | versions (versions : List String)
  deriving DecidableEq, Repr

/-- The replies of `VersionsHandler` once `getAvailableDockerVersions` has returned. -/
def versionsReply (dockerImage : String) : Except String (List String) → Nat × VersionsReply
  | .error err => (400, .error ("error getting available docker image [" ++ dockerImage ++
      "] versions from DockerHub: " ++ err))
  | .ok [] => (400, .error ("Docker Image " ++ dockerImage ++
      " doesn't have availabe tag on hub.docker.com"))
  | .ok versions => (200, .versions versions)

/-- **`VersionsHandler`** for the path parameter `dockerImage`, its loop run for at most `fuel`
turns. -/
def versionsHandler (hub : DockerHub) (sort : TagSort) (fuel : Nat) (dockerImage : String) :
    Outcome (Nat × VersionsReply) :=
  if dockerImage = "" then .returned (400, .error "docker image name is required path parameter")
  else (getAvailableDockerVersions hub sort fuel dockerImage).map (versionsReply dockerImage)

/-- The only reply `200` carries the versions returned, and only when there are some. -/
theorem versionsReply_eq_ok {dockerImage : String} {r : Except String (List String)}
    {vs : List String} (h : versionsReply dockerImage r = (200, .versions vs)) :
    r = .ok vs ∧ vs ≠ [] := by
  unfold versionsReply at h
  split at h
  · simp at h
  · simp at h
  · cases h
    exact ⟨rfl, ‹_›⟩

/-- **A `200` from `VersionsHandler` lists versions, never `latest`, and they are the tags of the
whole chain of pages**: the list is not empty, the chain holds no `nil` tag, and up to its order
the list is what the loop over the chain's tags, unsorted, returns. -/
theorem versionsHandler_ok {hub : DockerHub} {sort : TagSort} {fuel : Nat} {dockerImage : String}
    {vs : List String}
    (h : versionsHandler hub sort fuel dockerImage = .returned (200, .versions vs)) :
    vs ≠ [] ∧ "latest" ∉ vs ∧
      ∃ n tags, Pages hub (dockerHubURL "airbyte" dockerImage) n (.ok tags) ∧ n ≤ fuel ∧
        ∃ names, versionNames tags = some names ∧ vs.Perm names := by
  unfold versionsHandler at h
  split at h
  · cases h
  obtain ⟨r, hr, h⟩ := Outcome.map_eq_returned.1 h
  obtain ⟨rfl, hne⟩ := versionsReply_eq_ok h
  obtain ⟨n, tags, hp, hn, hv⟩ := ((getAvailableDockerVersions_outcome hub sort fuel _).2.1 vs).1 hr
  exact ⟨hne, latest_not_mem_of_versionNames hv, n, tags, hp, hn, versionNames_arrange hv⟩

/-- A DockerHub with two pages of tags for `airbyte/source-x`, the first linking to the second. -/
def twoPageHub : DockerHub where
  get := fun u => .response 200 (.ok (if u = "page-2" then "second" else "first"))
  unmarshal := fun body => .ok (if body = "first" then
      ⟨"page-2", [some ⟨"1.0.0", "2021-06-01T12:00:00Z"⟩, some ⟨"latest", "2021-06-01T12:00:00Z"⟩]⟩
    else ⟨"", [some ⟨"0.9.0", "2021-05-01T12:00:00Z"⟩]⟩)

theorem sample_versionsHandler_ok :
    versionsHandler twoPageHub .keep 3 "source-x" = .returned (200, .versions ["1.0.0", "0.9.0"]) ∧
      ["1.0.0", "0.9.0"] ≠ [] ∧ "latest" ∉ ["1.0.0", "0.9.0"] ∧
      ∃ n tags, Pages twoPageHub (dockerHubURL "airbyte" "source-x") n (.ok tags) ∧ n ≤ 3 ∧
        ∃ names, versionNames tags = some names ∧ ["1.0.0", "0.9.0"].Perm names :=
  ⟨rfl, @versionsHandler_ok twoPageHub .keep 3 "source-x" _ rfl⟩

/-- The DockerHub of `twoPageHub` with a JSON `null` among the tags of its second page. -/
def nullTagHub : DockerHub :=
  { twoPageHub with
    unmarshal := fun body => if body = "first" then twoPageHub.unmarshal body
      else .ok ⟨"", [some ⟨"0.9.0", "2021-05-01T12:00:00Z"⟩, none]⟩ }

example : versionsHandler nullTagHub .keep 3 "source-x" = .panicked := by decide

/-- **`VersionsHandler` never replies when DockerHub's `next` links run in a cycle**: if the
image's first page lies in a set of URLs each of which answers a page linking into the set, the
loop requests page after page without end, whatever the fuel. The Go loop has no bound on the
number of pages; the HTTP timeout bounds each request only. -/
theorem versionsHandler_never_replies_of_cycle {hub : DockerHub} (sort : TagSort)
    {dockerImage : String} (S : String → Prop)
    (hS : ∀ u, S u → u ≠ "" ∧ ∃ tags next, requestDockerHubTags hub u = .ok (tags, next) ∧ S next)
    (hd : dockerImage ≠ "") (hu : S (dockerHubURL "airbyte" dockerImage)) (fuel : Nat) :
    versionsHandler hub sort fuel dockerImage = .running := by
  unfold versionsHandler getAvailableDockerVersions
  rw [if_neg hd, Outcome.map_eq_running]
  cases h : collectTags hub fuel (dockerHubURL "airbyte" dockerImage) [] with
  | none => rfl
  | some r =>
    obtain ⟨n, hp, -⟩ := collectTags_start.1 h
    exact (hp.not_of_cycle S hS hu).elim

/-- A DockerHub whose every page links back to the first page of `airbyte/source-x`. -/
def loopingHub : DockerHub where
  get := fun _ => .response 200 (.ok "{}")
  unmarshal := fun _ => .ok ⟨dockerHubURL "airbyte" "source-x", []⟩

theorem sample_versionsHandler_loops :
    versionsHandler loopingHub .keep 1000 "source-x" = .running :=
  versionsHandler_never_replies_of_cycle .keep (· = dockerHubURL "airbyte" "source-x")
    (fun u hu => ⟨by subst hu; decide, [], _, by subst hu; rfl, rfl⟩) (by decide) rfl 1000

end Jitsu.Handlers
