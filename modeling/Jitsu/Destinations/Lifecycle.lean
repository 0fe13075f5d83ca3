import Jitsu.Destinations.Readers

/-! # Starting and reloading the service

`NewService` refuses a zero reload interval. It then takes its destinations from the application
config, whose snapshot it reconciles at once, or from a destinations source: an HTTP URL or a file,
which it hands to a watcher, or an inline JSON object, which it loads with `updateDestinations`;
any other source is an error. The watcher, and a forced reload, call `updateDestinations` on every
payload they fetch: a payload that parses is reconciled with `init`, one that does not is logged
and changes nothing.

* **`newService`**, **`updateDestinations`** — the two entry points, with their error texts.
* **`newService_error_iff`** — `NewService` fails exactly on a zero reload interval and on a
  source of no known form, and the message then names the source.
* **`newService_isSome`** — `NewService` never panics: from the empty service, `init` has no unit
  to remove.
* **`startSnapshot`** — the snapshot `NewService` reconciles, if any (`newService_ok`).
* **`Lifecycle`** — the states of one service: made by `NewService`, then reloaded, each
  reconciliation with its own collaborator answers and under a condition `ok` on the state it
  starts from and the snapshot it reconciles. **`lifecycle_reachable`**: each is a reachable
  state, by reconciliations of the snapshots of its own configuration, and a payload that does
  not parse leaves it as it is; so the ownership and projection results hold all along the
  service's life (`lifecycle_projection`). -/

namespace Jitsu.Destinations

open Service

/-! ## The source strings -/

/-- `strings.Contains(s, sub)`. -/
def strContains (s sub : String) : Bool := decide (sub.toList <:+: s.toList)

/-- `strings.Replace(s, old, new, 1)`: the first occurrence of `old` in `s` replaced by `new`. -/
def replaceFirst (old new : List Char) : List Char → List Char
  | [] => []
  | c :: cs =>
    if old <+: c :: cs then new ++ (c :: cs).drop old.length else c :: replaceFirst old new cs

/-- A string that starts with `old` loses that occurrence. -/
theorem replaceFirst_append {old : List Char} (new rest : List Char) (h : old ≠ []) :
    replaceFirst old new (old ++ rest) = new ++ rest := by
  obtain ⟨c, cs, rfl⟩ := List.exists_cons_of_ne_nil h
  simp [replaceFirst]

/-- Modelled from the spec: the watcher `resources.Watch` on a destinations source, which calls
`updateDestinations` with every payload it fetches from it. -/
inductive Watcher where
  | http (url : String)
  | file (path : String)
  deriving DecidableEq

/-! ## The entry points -/

section EntryPoints

variable (getHash : String → DestinationConfig → UInt64) (deps : Collaborators)
  (parse : String → Option (GoMap DestinationConfig))

/-- **`updateDestinations(payload)`**: parse the payload, with `parse` for `parseFromBytes`, and
reconcile the snapshot in the orders `ord`; a payload that does not parse is logged, and the
service stays as it is. -/
def updateDestinations (ord : InitOrders) (s : Service) (payload : String) : Option Service :=
  match parse payload with
  | none => some s
  | some dc => s.init getHash deps ord dc

/-- **`NewService`**. `destinations` is the destinations section of the application config:
`none` when there is none, otherwise what `Unmarshal` makes of it; `destinationsSource` is the
destinations source. The result is the service with the watcher started on the source, or the
error; `none` is a panic. -/
def newService (ord : InitOrders) (reloadSec : Int)
    (destinations : Option (Option (GoMap DestinationConfig))) (destinationsSource : String) :
    Option (Except String (Service × Option Watcher)) :=
  if reloadSec = 0 then some (.error "server.destinations_reload_sec can't be empty")
  else
    match destinations with
    | some none => some (.ok (Service.empty, none))
    | some (some dc) => (Service.empty.init getHash deps ord dc).map fun s => .ok (s, none)
    | none =>
      if destinationsSource = "" then some (.ok (Service.empty, none))
      else if destinationsSource.startsWith "http://" ||
          destinationsSource.startsWith "https://" then
        some (.ok (Service.empty, some (.http destinationsSource)))
      else if strContains destinationsSource "file://" || destinationsSource.startsWith "/" then
        some (.ok (Service.empty,
          some (.file ⟨replaceFirst "file://".toList [] destinationsSource.toList⟩)))
      else if destinationsSource.startsWith "\x7b" && destinationsSource.endsWith "\x7d" then
        (updateDestinations getHash deps parse ord Service.empty destinationsSource).map
          fun s => .ok (s, none)
      else some (.error ("Unknown destination source: " ++ destinationsSource))

end EntryPoints

section Life

variable (getHash : String → DestinationConfig → UInt64)
  (parse : String → Option (GoMap DestinationConfig))

/-- The snapshot `NewService` reconciles, if any: its destinations section, or an inline source
that parses. -/
def startSnapshot (destinations : Option (Option (GoMap DestinationConfig)))
    (destinationsSource : String) : Option (GoMap DestinationConfig) :=
  match destinations with
  | some dc => dc
  | none =>
    if destinationsSource = "" then none
    else if destinationsSource.startsWith "http://" ||
        destinationsSource.startsWith "https://" then none
    else if strContains destinationsSource "file://" || destinationsSource.startsWith "/" then none
    else if destinationsSource.startsWith "\x7b" && destinationsSource.endsWith "\x7d" then
      parse destinationsSource
    else none

/-- **The states of one service in its life**: made by `NewService` from its configuration, then
reloaded with `updateDestinations`, one reload at a time. Each call has its own collaborator
answers and iteration orders, as the authorization service and the storages change between
reloads, and each reconciliation it makes satisfies `ok` in the state it starts from. Reloads
are allowed whether or not a watcher started, which only adds states. -/
inductive Lifecycle (ok : Service → Collaborators → GoMap DestinationConfig → Prop)
    (reloadSec : Int) (destinations : Option (Option (GoMap DestinationConfig)))
    (destinationsSource : String) : Service → Prop
  | start {deps : Collaborators} {ord : InitOrders} {s : Service} {w : Option Watcher} :
      newService getHash deps parse ord reloadSec destinations destinationsSource =
        some (.ok (s, w)) →
      (∀ dc, startSnapshot parse destinations destinationsSource = some dc →
        ok Service.empty deps dc) →
      Lifecycle ok reloadSec destinations destinationsSource s
  | reload {s s' : Service} (deps : Collaborators) (ord : InitOrders) (payload : String) :
      Lifecycle ok reloadSec destinations destinationsSource s →
      (∀ dc, parse payload = some dc → ok s deps dc) →
      updateDestinations getHash deps parse ord s payload = some s' →
      Lifecycle ok reloadSec destinations destinationsSource s'

end Life

section Proofs

variable {getHash : String → DestinationConfig → UInt64} {deps : Collaborators}
  {parse : String → Option (GoMap DestinationConfig)}

/-! ## `NewService` never panics -/

/-- The create loop over distinct names none of which has a live unit never panics: it never
removes a unit. -/
theorem createPass_isSome_of_fresh {s : Service} {acc : NewMaps}
    {todo : List (GoMap.Entry DestinationConfig)} (hl : todo.NodupKeys)
    (hfree : ∀ n ∈ todo.keys, s.unitsByName.lookup n = none) :
    (createPass getHash deps s acc todo).isSome := by
  induction todo generalizing s acc with
  | nil => rfl
  | cons e todo ih =>
    have hl' := List.nodupKeys_cons.1 hl
    simp only [createPass, createOne_of_none getHash (hfree e.1 (.head _)), Option.some_bind]
    refine ih hl'.2 fun n hn => ?_
    have hne : n ≠ e.1 := by rintro rfl; exact hl'.1 hn
    rw [createUnit_unitsByName]
    split_ifs <;> simp [AList.lookup_insert_ne hne, hfree n (.tail _ hn)]

/-- **`init` from the empty service never panics.** -/
theorem init_empty_isSome (ord : InitOrders) (dc : GoMap DestinationConfig) :
    (Service.empty.init getHash deps ord dc).isSome := by
  have h := @createPass_isSome_of_fresh getHash deps Service.empty {} _
    (GoMap.nodupKeys_arrange ord.dc dc) fun _ _ => rfl
  obtain ⟨p, hp⟩ := Option.isSome_iff_exists.1 h
  have hnil : ord.toDelete.arrange (Service.empty.toDelete dc) = [] := (ord.toDelete.perm []).eq_nil
  simp [Service.init, hnil, Service.removeAll, hp]

theorem updateDestinations_empty_isSome (ord : InitOrders) (payload : String) :
    (updateDestinations getHash deps parse ord Service.empty payload).isSome := by
  unfold updateDestinations
  split
  · rfl
  · exact init_empty_isSome ord _

/-- **`NewService` never panics.** -/
theorem newService_isSome (ord : InitOrders) (reloadSec : Int)
    (destinations : Option (Option (GoMap DestinationConfig))) (destinationsSource : String) :
    (newService getHash deps parse ord reloadSec destinations destinationsSource).isSome := by
  unfold newService
  by_cases h₀ : reloadSec = 0
  · simp [h₀]
  · rcases destinations with _ | _ | dc <;> simp only [h₀, if_false]
    · split_ifs <;> simp [updateDestinations_empty_isSome]
    · rfl
    · simpa using init_empty_isSome ord dc

/-! ## When `NewService` fails -/

/-- **`NewService` fails exactly on a zero reload interval, and on a destinations source, used
for want of a destinations section, that is neither an HTTP URL, a file nor an inline object**;
the message then names the source. A section that does not unmarshal is no error. -/
theorem newService_error_iff (ord : InitOrders) (reloadSec : Int)
    (destinations : Option (Option (GoMap DestinationConfig))) (destinationsSource msg : String) :
    newService getHash deps parse ord reloadSec destinations destinationsSource =
        some (.error msg) ↔
      (reloadSec = 0 ∧ msg = "server.destinations_reload_sec can't be empty") ∨
      (reloadSec ≠ 0 ∧ destinations = none ∧ destinationsSource ≠ "" ∧
        destinationsSource.startsWith "http://" = false ∧
        destinationsSource.startsWith "https://" = false ∧
        strContains destinationsSource "file://" = false ∧
        destinationsSource.startsWith "/" = false ∧
        (destinationsSource.startsWith "\x7b" && destinationsSource.endsWith "\x7d") = false ∧
        msg = "Unknown destination source: " ++ destinationsSource) := by
  unfold newService
  by_cases h₀ : reloadSec = 0
  · simp only [h₀, if_true, Option.some.injEq, Except.error.injEq, ne_eq, not_true_eq_false,
      false_and, or_false, true_and]
    exact eq_comm
  · rcases destinations with _ | _ | dc
    · rw [if_neg h₀]
      split_ifs with h₁ h₂ h₃ h₄
      · refine iff_of_false (by simp) ?_
        simp [h₀, h₁]
      · refine iff_of_false (by simp) ?_
        rintro (⟨h, -⟩ | ⟨-, -, -, ha, hb, -⟩)
        · exact h₀ h
        · simp [ha, hb] at h₂
      · refine iff_of_false (by simp) ?_
        rintro (⟨h, -⟩ | ⟨-, -, -, -, -, hc, hd, -⟩)
        · exact h₀ h
        · simp [hc, hd] at h₃
      · refine iff_of_false (by simp) ?_
        rintro (⟨h, -⟩ | ⟨-, -, -, -, -, -, -, he, -⟩)
        · exact h₀ h
        · simp [he] at h₄
      · simp only [Option.some.injEq, Except.error.injEq, Bool.or_eq_true, not_or,
          Bool.not_eq_true] at h₂ h₃ h₄ ⊢
        constructor
        · rintro rfl
          exact .inr ⟨h₀, trivial, h₁, h₂.1, h₂.2, h₃.1, h₃.2, h₄, rfl⟩
        · rintro (⟨h, -⟩ | ⟨-, -, -, -, -, -, -, -, rfl⟩)
          · exact absurd h h₀
          · rfl
    · simp [h₀]
    · simp [h₀]

/-! ## The life of a service -/

/-- The updates `updateDestinations` makes: none, or the reconciliation of a parsed snapshot. -/
theorem updateDestinations_cases {ord : InitOrders} {s s' : Service} {payload : String}
    (h : updateDestinations getHash deps parse ord s payload = some s') :
    s' = s ∨ ∃ dc, parse payload = some dc ∧ s.init getHash deps ord dc = some s' := by
  unfold updateDestinations at h
  split at h
  · exact .inl (Option.some.inj h).symm
  · exact .inr ⟨_, ‹_›, h⟩

/-- A payload that does not parse leaves the service as it is. -/
theorem updateDestinations_of_none {ord : InitOrders} {s : Service} {payload : String}
    (h : parse payload = none) : updateDestinations getHash deps parse ord s payload = some s := by
  simp [updateDestinations, h]

/-- **The services `NewService` makes**: the empty one when it reconciles no snapshot, otherwise
the reconciliation, from the empty service, of the snapshot it takes. -/
theorem newService_ok {ord : InitOrders} {reloadSec : Int}
    {destinations : Option (Option (GoMap DestinationConfig))} {destinationsSource : String}
    {s : Service} {w : Option Watcher}
    (h : newService getHash deps parse ord reloadSec destinations destinationsSource =
      some (.ok (s, w))) :
    (startSnapshot parse destinations destinationsSource = none ∧ s = Service.empty) ∨
      ∃ dc, startSnapshot parse destinations destinationsSource = some dc ∧
        Service.empty.init getHash deps ord dc = some s := by
  unfold newService at h
  by_cases h₀ : reloadSec = 0
  · simp [h₀] at h
  rw [if_neg h₀] at h
  rcases destinations with _ | _ | dc
  · unfold startSnapshot
    split_ifs at h ⊢ <;> simp only [Option.some.injEq, Except.ok.injEq, Prod.mk.injEq,
      reduceCtorEq] at h
    · exact .inl ⟨rfl, h.1.symm⟩
    · exact .inl ⟨rfl, h.1.symm⟩
    · exact .inl ⟨rfl, h.1.symm⟩
    · obtain ⟨s₁, h₁, he⟩ := Option.map_eq_some'.1 h
      cases he
      unfold updateDestinations at h₁
      cases hp : parse destinationsSource with
      | none => rw [hp] at h₁; exact .inl ⟨rfl, (Option.some.inj h₁).symm⟩
      | some dc => rw [hp] at h₁; exact .inr ⟨dc, rfl, h₁⟩
  · simp only [Option.some.injEq, Except.ok.injEq, Prod.mk.injEq] at h
    exact .inl ⟨rfl, h.1.symm⟩
  · obtain ⟨s₁, h₁, he⟩ := Option.map_eq_some'.1 h
    cases he
    exact .inr ⟨dc, rfl, h₁⟩

/-- The snapshot `NewService` takes comes from the destinations section or from `parse`. -/
theorem startSnapshot_eq_some {destinations : Option (Option (GoMap DestinationConfig))}
    {destinationsSource : String} {dc : GoMap DestinationConfig}
    (h : startSnapshot parse destinations destinationsSource = some dc) :
    destinations = some (some dc) ∨ ∃ p, parse p = some dc := by
  unfold startSnapshot at h
  rcases destinations with _ | _ | dc'
  · split_ifs at h
    exact .inr ⟨_, h⟩
  · cases h
  · cases h
    exact .inl rfl

/-- The snapshots a service reconciles in its life: those of its destinations section, and
those `parse` makes of a payload. -/
def FromConfig (parse : String → Option (GoMap DestinationConfig))
    (destinations : Option (Option (GoMap DestinationConfig))) (dc : GoMap DestinationConfig) :
    Prop :=
  destinations = some (some dc) ∨ ∃ p, parse p = some dc

theorem Reachable.mono {ok ok' : Service → Collaborators → GoMap DestinationConfig → Prop}
    {s : Service} (h : Reachable getHash ok s) (hok : ∀ s d dc, ok s d dc → ok' s d dc) :
    Reachable getHash ok' s := by
  induction h with
  | empty => exact .empty
  | init deps ord dc _ hd hi ih => exact .init deps ord dc ih (hok _ _ _ hd) hi

variable {ok : Service → Collaborators → GoMap DestinationConfig → Prop}

/-- **Every state of a service's life is reachable**, by reconciliations, each with its own
collaborator answers, of the snapshots of its own configuration and payloads, each satisfying
what the life's reconciliations satisfy; and a payload that does not parse leaves the state as it
is. -/
theorem lifecycle_reachable {reloadSec : Int}
    {destinations : Option (Option (GoMap DestinationConfig))} {destinationsSource : String}
    {s : Service} (h : Lifecycle getHash parse ok reloadSec destinations destinationsSource s) :
    Reachable getHash (fun s₀ d dc => ok s₀ d dc ∧ FromConfig parse destinations dc) s ∧
      ∀ deps ord payload, parse payload = none →
        updateDestinations getHash deps parse ord s payload = some s := by
  refine ⟨?_, fun _ _ _ hp => updateDestinations_of_none hp⟩
  induction h with
  | start h hok =>
    rcases newService_ok h with ⟨-, rfl⟩ | ⟨dc, hdc, hi⟩
    · exact .empty
    · exact .init _ _ dc .empty ⟨hok dc hdc, startSnapshot_eq_some hdc⟩ hi
  | reload deps ord payload _ hok h ih =>
    rcases updateDestinations_cases h with rfl | ⟨dc, hp, hi⟩
    · exact ih
    · exact .init deps ord dc ih ⟨hok dc hp, .inr ⟨payload, hp⟩⟩ hi

/-- **All along the life of a service whose reconciliations the projection survives, the read
maps are the projection of the live units**, and every shared logger's usage is its demand. The
condition is on the snapshots the life actually reconciles, in the state each starts from: no
stream destination named like one of its tokens, and no removal or recreation of a live staged
batch unit. -/
theorem lifecycle_projection {reloadSec : Int}
    {destinations : Option (Option (GoMap DestinationConfig))} {destinationsSource : String}
    {s : Service}
    (h : Lifecycle getHash parse (Reconcilable getHash) reloadSec destinations destinationsSource
      s) :
    s.Projected ∧ s.UsageMatches :=
  have hs := (lifecycle_reachable h).1.mono fun _ _ _ h => h.1
  ⟨hs.midInv.projected, hs.midInv.usageMatches⟩

end Proofs

/-- The payloads of the sample life: `staged` is the sample snapshot with the staged batch
destination `dryrun`. -/
def samplePayload (payload : String) : Option (GoMap DestinationConfig) :=
  if payload = "staged" then some stagedSnapshot else none

/-- The collaborators of the reload: the authorization service now knows a second token. -/
def Collaborators.reload : Collaborators := ⟨id, ["t", "u"], fun _ _ => true⟩

theorem sample_reload_isSome :
    (sampleState.init sampleHash .reload .listed stagedSnapshot).isSome := by decide

/-- The sample deployment after the reload of the payload `staged`. -/
def sampleReloaded : Service :=
  (sampleState.init sampleHash .reload .listed stagedSnapshot).get sample_reload_isSome

theorem newService_sample_payload :
    newService sampleHash .sample samplePayload .listed 10 (some (some sampleSnapshot)) "" =
      some (.ok (sampleState, none)) := by
  simp [newService, init_sample]

/-- The sample life: made from the sample section, then reloaded with other collaborators. -/
theorem sampleLife (ok : Service → Collaborators → GoMap DestinationConfig → Prop)
    (h₀ : ok Service.empty .sample sampleSnapshot) (h₁ : ok sampleState .reload stagedSnapshot) :
    Lifecycle sampleHash samplePayload ok 10 (some (some sampleSnapshot)) "" sampleReloaded :=
  .reload .reload .listed "staged" (.start newService_sample_payload fun _ h => by cases h; exact h₀)
    (fun _ h => by cases h; exact h₁) (Option.some_get sample_reload_isSome).symm

theorem sample_lifecycle_reachable :
    Lifecycle sampleHash samplePayload (fun _ _ _ => True) 10 (some (some sampleSnapshot)) ""
        sampleReloaded ∧
      Reachable sampleHash (fun _ _ dc => True ∧
        FromConfig samplePayload (some (some sampleSnapshot)) dc) sampleReloaded ∧
      ∀ deps ord payload, samplePayload payload = none →
        updateDestinations sampleHash deps samplePayload ord sampleReloaded payload =
          some sampleReloaded :=
  ⟨sampleLife _ trivial trivial, lifecycle_reachable (sampleLife _ trivial trivial)⟩

theorem sample_lifecycle_projection :
    Lifecycle sampleHash samplePayload (Reconcilable sampleHash) 10 (some (some sampleSnapshot))
        "" sampleReloaded ∧
      sampleReloaded.Projected ∧ sampleReloaded.UsageMatches :=
  have h := sampleLife (Reconcilable sampleHash) (by decide) (by decide)
  ⟨h, lifecycle_projection h⟩

end Jitsu.Destinations
