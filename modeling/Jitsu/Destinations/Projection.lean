import Jitsu.Destinations.StagedBatch

/-! # The read maps are the projection of the live units

`GetConsumers`, `GetStorages` and `GetDestinationIDs` read three tokenized maps that `remove`
edits in place and that `init` extends, at its end, with the entries it collected on the way.
This file proves that the three maps are exactly what the live units route, in every reachable
state of a run whose reconciliations are *reconcilable* (`Reconcilable`): no stream destination
whose resolved tokens contain its own name, and no reconciliation that removes or recreates a
live staged batch unit. Staged batch destinations are admitted; neither condition can go.

* **`routesOf`** — what a unit registry routes: under a token and a name, the queue and the
  storage of the unit of that name, when it is built from a non-staged config serving the token.
* **`View s acc R D`** — the maps `s` shows once `acc` is published are the projection of the
  routes `R`, and a token's shared logger is registered, with usage `D t`, exactly when `D t` is
  positive. Between operations `R` and `D` are `routesOf` and `loggerDemand` of the live units;
  inside the token loops of `remove` and `init` they are those of the units with the tokens
  visited so far unregistered or registered.
* **`removeToken_view`**, **`addToken_view`** — the two steps that edit the maps keep `View`.
  `MidInv` carries it across the create loop, with where the collected entries come from.
* **`reachable_projection`** — the projection in every reachable state of a reconcilable run;
  `sample_reachable_projection` reloads a deployment with a staged batch destination.
* **`stream_named_as_token_breaks_projection`** — a stream destination named like one of its
  tokens puts its queue under the key of that token's shared logger.
* **`Admissible`** snapshots (no staged batch destination at all) are reconcilable in every
  state of a run made of them (`NoStagedBatch.reconcilable`), so `init` never panics on them
  (`init_isSome_of_admissible`). -/

namespace Jitsu.Destinations

/-- What a unit routes under a token: its queue and its storage, when it is built from a
non-staged config whose tokens contain the token. -/
def Unit.route (u : Unit) (tokenID : String) : Option (Option Handle × Handle) :=
  if u.staged = false ∧ tokenID ∈ u.tokenIDs then some (u.eventQueue, u.storage) else none

/-- What a unit adds to the usage of a token's shared logger: its occurrences of the token, for
a batch unit built from a non-staged config. -/
def Unit.demand (u : Unit) (tokenID : String) : Nat :=
  if u.eventQueue = none ∧ u.staged = false then u.tokenIDs.count tokenID else 0

/-- Routes by token and name. -/
abbrev Routes := String → String → Option (Option Handle × Handle)

/-- **The routes of a unit registry.** -/
def routesOf (units : GoMap Unit) : Routes :=
  fun tokenID name => (units.lookup name).bind (·.route tokenID)

/-- The ID entry a route gives. -/
def Routes.id (r : Option (Option Handle × Handle)) : Option Bool := r.map fun _ => true

/-- The storage entry a route gives: a batch unit's storage. -/
def Routes.storage (r : Option (Option Handle × Handle)) : Option Handle :=
  r.bind fun r => if r.1 = none then some r.2 else none

/-- The consumer entry a route gives under a destination name: a stream unit's queue. -/
def Routes.queue (r : Option (Option Handle × Handle)) : Option Consumer :=
  r.bind fun r => if r.1.isSome then some r.1 else none

/-- Routes with the entry under `(t, name)` dropped. -/
def Routes.drop (R : Routes) (t name : String) : Routes :=
  fun t' k => if t' = t ∧ k = name then none else R t' k

theorem Routes.id_drop (R : Routes) (t name t' k : String) :
    Routes.id (Routes.drop R t name t' k) =
      if t' = t ∧ k = name then none else Routes.id (R t' k) := by
  unfold Routes.drop; split_ifs <;> rfl

theorem Routes.storage_drop (R : Routes) (t name t' k : String) :
    Routes.storage (Routes.drop R t name t' k) =
      if t' = t ∧ k = name then none else Routes.storage (R t' k) := by
  unfold Routes.drop; split_ifs <;> rfl

theorem Routes.queue_drop (R : Routes) (t name t' k : String) :
    Routes.queue (Routes.drop R t name t' k) =
      if t' = t ∧ k = name then none else Routes.queue (R t' k) := by
  unfold Routes.drop; split_ifs <;> rfl

/-- Dropping a batch unit's route leaves the queue entries alone. -/
theorem Routes.queue_drop_of_batch {R : Routes} {t name : String}
    (hR : ∀ r, R t name = some r → r.1 = none) (t' k : String) :
    Routes.queue (Routes.drop R t name t' k) = Routes.queue (R t' k) := by
  unfold Routes.drop
  split_ifs with h
  · obtain ⟨rfl, rfl⟩ := h
    cases hr : R t' k with
    | none => rfl
    | some r => simp [Routes.queue, hR r hr]
  · rfl

/-- Routes with `r` put under `(t, name)`. -/
def Routes.put (R : Routes) (t name : String) (r : Option Handle × Handle) : Routes :=
  fun t' k => if t' = t ∧ k = name then some r else R t' k

/-- Putting a route for a stream unit leaves the storage entries alone. -/
theorem Routes.storage_put_of_stream {R : Routes} {t name : String} {q : Option Handle}
    {st : Handle} (hR : ∀ r, R t name = some r → r = (q, st)) (hq : q.isSome) (t' k : String) :
    Routes.storage (Routes.put R t name (q, st) t' k) = Routes.storage (R t' k) := by
  unfold Routes.put
  have hq' : q ≠ none := by simpa [← Option.isSome_iff_ne_none] using hq
  split_ifs with h
  · obtain ⟨rfl, rfl⟩ := h
    cases hr : R t' k with
    | none => simp [Routes.storage, hq']
    | some r => simp [Routes.storage, hR r hr, hq']
  · rfl

/-- Putting a route for a batch unit leaves the queue entries alone. -/
theorem Routes.queue_put_of_batch {R : Routes} {t name : String} {st : Handle}
    (hR : ∀ r, R t name = some r → r = (none, st)) (t' k : String) :
    Routes.queue (Routes.put R t name (none, st) t' k) = Routes.queue (R t' k) := by
  unfold Routes.put
  split_ifs with h
  · obtain ⟨rfl, rfl⟩ := h
    cases hr : R t' k with
    | none => rfl
    | some r => simp [Routes.queue, hR r hr]
  · rfl

/-- A demand raised by one at `t`. -/
def incAt (D : String → Nat) (t : String) : String → Nat :=
  fun t' => if t' = t then D t' + 1 else D t'

/-- A demand lowered by one at `t`. -/
def decAt (D : String → Nat) (t : String) : String → Nat :=
  fun t' => if t' = t then D t' - 1 else D t'

namespace Service

/-- The consumer entry under the key of a token: its shared logger, while the demand is
positive. -/
def loggerEntry (s : Service) (D : String → Nat) (tokenID : String) : Option Consumer :=
  if 0 < D tokenID then (s.loggersUsageByTokenID.lookup tokenID).map fun lu => some lu.logger
  else none

/-- **The view of the read maps.** Once `acc` is published, the ID, storage and consumer maps of
`s` hold exactly the entries the routes `R` give, plus, under each token's own key, its shared
logger while the demand `D` of the token is positive; and a token has a `LoggerUsage`, with
usage `D t`, exactly when `D t` is positive. -/
structure View (s : Service) (acc : NewMaps) (R : Routes) (D : String → Nat) : Prop where
  ids : ∀ t k, (acc.ids.get t k).or (s.destinationsIDByTokenID.get t k) = Routes.id (R t k)
  storages : ∀ t k,
    (acc.storages.get t k).or (s.storagesByTokenID.get t k) = Routes.storage (R t k)
  consumers : ∀ t k, (acc.consumers.get t k).or (s.consumersByTokenID.get t k) =
    if k = t then s.loggerEntry D t else Routes.queue (R t k)
  loggers : ∀ t, (s.loggersUsageByTokenID.lookup t).isSome ↔ 0 < D t
  usage : ∀ t lu, s.loggersUsageByTokenID.lookup t = some lu → lu.usage = D t

/-- The view depends on the read maps and the loggers only. -/
theorem View.of_maps {s s' : Service} {acc : NewMaps} {R : Routes} {D : String → Nat}
    (hv : s.View acc R D) (hids : s'.destinationsIDByTokenID = s.destinationsIDByTokenID)
    (hst : s'.storagesByTokenID = s.storagesByTokenID)
    (hc : s'.consumersByTokenID = s.consumersByTokenID)
    (hl : s'.loggersUsageByTokenID = s.loggersUsageByTokenID) : s'.View acc R D :=
  ⟨by rw [hids]; exact hv.ids, by rw [hst]; exact hv.storages,
    by simp only [hc, loggerEntry, hl]; exact hv.consumers, by rw [hl]; exact hv.loggers,
    by rw [hl]; exact hv.usage⟩

/-! ## Removing one token of a unit -/

/-- Deleting a name from a published map whose collected entries lack it drops that entry. -/
theorem or_get_deleteName {α : Type} {acc live : Tokenized α} {E : String → String → Option α}
    (h : ∀ t k, (acc.get t k).or (live.get t k) = E t k) {t name : String}
    (hacc : acc.get t name = none) (t' k : String) :
    (acc.get t' k).or ((live.deleteName t name).get t' k) =
      if t' = t ∧ k = name then none else E t' k := by
  rw [Tokenized.get_deleteName]
  split_ifs with hk
  · obtain ⟨rfl, rfl⟩ := hk
    simp [hacc]
  · exact h t' k

/-- The consumer entries of a token after `remove` writes its inner map back with `name` erased. -/
theorem get_setOrDelete_erase (ts : Tokenized Consumer) (t name t' k : String) :
    (ts.setOrDelete t (((ts.lookup t).getD ∅).erase name)).get t' k =
      if t' = t ∧ k = name then none else ts.get t' k := by
  rw [Tokenized.get_setOrDelete]
  by_cases ht : t' = t
  · subst ht
    by_cases hk : k = name
    · subst hk; simp [AList.lookup_erase]
    · simp only [AList.lookup_erase_ne hk, hk, and_false, if_false, if_true, Tokenized.get]
      cases ts.lookup t' <;> rfl
  · simp [ht]

/-- Writing a token's inner map back unchanged changes no entry. -/
theorem get_setOrDelete_self (ts : Tokenized Consumer) (t t' k : String) :
    (ts.setOrDelete t ((ts.lookup t).getD ∅)).get t' k = ts.get t' k := by
  rw [Tokenized.get_setOrDelete]
  split_ifs with ht
  · subst ht
    simp only [Tokenized.get]
    cases ts.lookup t' <;> rfl
  · rfl

/-- **One iteration of `remove`'s token loop keeps the view**, with the unit's route under the
token dropped and, for a batch unit, the token's demand lowered by one. It does not panic: a
batch unit still counted in the demand finds the token's `LoggerUsage`. The collected entries
must lack the unit's name, and a logger they hold must be backed by another unit's demand. -/
theorem removeToken_view {s : Service} {acc : NewMaps} {R : Routes} {D : String → Nat}
    {name t : String} {unit : Unit} (hv : s.View acc R D)
    (hR : ∀ r, R t name = some r → r.1 = unit.eventQueue)
    (hids : acc.ids.get t name = none) (hst : acc.storages.get t name = none)
    (hcons : name ≠ t → acc.consumers.get t name = none)
    (hstream : unit.eventQueue.isSome → name ≠ t)
    (hD : unit.eventQueue = none → 0 < D t)
    (hback : unit.eventQueue = none → (acc.consumers.get t t).isSome → 1 < D t) :
    ∃ s', s.removeToken name unit t = some s' ∧
      s'.View acc (Routes.drop R t name) (if unit.eventQueue = none then decAt D t else D) := by
  have hids' : ∀ t' k, (acc.ids.get t' k).or
      ((s.destinationsIDByTokenID.deleteName t name).get t' k) =
        Routes.id (Routes.drop R t name t' k) := fun t' k => by
    simpa [Routes.id_drop] using or_get_deleteName hv.ids hids t' k
  have hst' : ∀ t' k, (acc.storages.get t' k).or
      ((s.storagesByTokenID.deleteName t name).get t' k) =
        Routes.storage (Routes.drop R t name t' k) := fun t' k => by
    simpa [Routes.storage_drop] using or_get_deleteName hv.storages hst t' k
  cases hq : unit.eventQueue with
  | some q =>
    have hne := hstream (by simp [hq])
    simp only [removeToken, hq]
    refine ⟨_, rfl, ⟨hids', hst', fun t' k => ?_, hv.loggers, hv.usage⟩⟩
    simp only [unregister_consumers, get_setOrDelete_erase, Routes.queue_drop]
    by_cases h : t' = t ∧ k = name
    · obtain ⟨rfl, rfl⟩ := h
      simp [hcons hne, hne]
    · rw [if_neg h, hv.consumers, if_neg h]
      rfl
  | none =>
    obtain ⟨lu, hlu⟩ := Option.isSome_iff_exists.1 ((hv.loggers t).2 (hD hq))
    have hu := hv.usage t lu hlu
    have hR' : ∀ r, R t name = some r → r.1 = none := fun r hr => (hR r hr).trans hq
    by_cases h0 : lu.usage - 1 = 0
    · have hD1 : D t = 1 := by omega
      have hacc : acc.consumers.get t t = none := by
        cases hc : acc.consumers.get t t with
        | none => rfl
        | some c => have := hback hq (by simp [hc]); omega
      simp only [removeToken, hq, hlu, if_pos h0]
      refine ⟨_, rfl, ⟨hids', hst', fun t' k => ?_, fun t' => ?_, fun t' lu' hlu' => ?_⟩⟩
      · simp only [unregister_consumers, get_setOrDelete_erase, Routes.queue_drop_of_batch hR']
        by_cases h : t' = t ∧ k = t
        · obtain ⟨rfl, rfl⟩ := h
          simp [hacc, loggerEntry, decAt, hD1]
        · rw [if_neg h, hv.consumers]
          by_cases hk : k = t'
          · subst hk
            have ht : k ≠ t := fun e => h ⟨e, e⟩
            simp [loggerEntry, decAt, ht, AList.lookup_erase_ne ht]
          · simp [hk]
      · by_cases ht : t' = t
        · subst ht; simp [AList.lookup_erase, decAt, hD1]
        · simpa [AList.lookup_erase_ne ht, decAt, ht] using hv.loggers t'
      · by_cases ht : t' = t
        · subst ht; simp [AList.lookup_erase] at hlu'
        · simp only [unregister_loggers, AList.lookup_erase_ne ht] at hlu'
          simpa [decAt, ht] using hv.usage t' lu' hlu'
    · have hD2 : 1 < D t := by have := hD hq; omega
      simp only [removeToken, hq, hlu, if_neg h0]
      refine ⟨_, rfl, ⟨hids', hst', fun t' k => ?_, fun t' => ?_, fun t' lu' hlu' => ?_⟩⟩
      · simp only [unregister_consumers, get_setOrDelete_self, Routes.queue_drop_of_batch hR',
          hv.consumers]
        by_cases hk : k = t'
        · subst hk
          by_cases ht : k = t
          · subst ht
            have : 0 < D k := by omega
            simp [loggerEntry, decAt, hlu, AList.lookup_insert, this, hD2]
          · simp [loggerEntry, decAt, ht, AList.lookup_insert_ne ht]
        · simp [hk]
      · by_cases ht : t' = t
        · subst ht; simp [AList.lookup_insert, decAt]; omega
        · simpa [AList.lookup_insert_ne ht, decAt, ht] using hv.loggers t'
      · by_cases ht : t' = t
        · subst ht
          simp only [unregister_loggers, AList.lookup_insert, Option.some.injEq] at hlu'
          subst hlu'
          simp [decAt]; omega
        · simp only [unregister_loggers, AList.lookup_insert_ne ht] at hlu'
          simpa [decAt, ht] using hv.usage t' lu' hlu'

/-! ## Adding one token of a unit -/

theorem loggerFor_consumers (s : Service) (t : String) :
    (s.loggerFor t).2.consumersByTokenID = s.consumersByTokenID := by
  unfold loggerFor; split <;> rfl

theorem loggerFor_ids (s : Service) (t : String) :
    (s.loggerFor t).2.destinationsIDByTokenID = s.destinationsIDByTokenID := by
  unfold loggerFor; split <;> rfl

theorem loggerFor_storages (s : Service) (t : String) :
    (s.loggerFor t).2.storagesByTokenID = s.storagesByTokenID := by
  unfold loggerFor; split <;> rfl

theorem lookup_loggerFor_ne (s : Service) {t t' : String} (h : t' ≠ t) :
    (s.loggerFor t).2.loggersUsageByTokenID.lookup t' = s.loggersUsageByTokenID.lookup t' := by
  unfold loggerFor; split
  · rfl
  · exact AList.lookup_insert_ne h

/-- The "get or create" step finds the usage the demand says, a fresh logger starting at zero. -/
theorem View.loggerFor_usage {s : Service} {acc : NewMaps} {R : Routes} {D : String → Nat}
    (hv : s.View acc R D) (t : String) : (s.loggerFor t).1.usage = D t := by
  unfold loggerFor
  split
  · exact hv.usage t _ ‹_›
  · rename_i h
    have := (hv.loggers t).not.1 (by simp [h])
    simp only [Nat.not_lt, Nat.le_zero] at this
    simp [this]

/-- **One iteration of `init`'s token loop keeps the view**, for a non-staged unit, with the
unit's route put under the token and, for a batch unit, the token's demand raised by one. -/
theorem addToken_view {s : Service} {acc : NewMaps} {R : Routes} {D : String → Nat}
    {name t : String} {cfg : DestinationConfig} {q : Option Handle} {st : Handle}
    (hv : s.View acc R D) (hcfg : cfg.staged = false)
    (hR : ∀ r, R t name = some r → r = (q, st)) (hq : q.isSome ↔ cfg.mode = streamMode)
    (hstream : q.isSome → name ≠ t) :
    (s.addToken name cfg q st acc t).1.View (s.addToken name cfg q st acc t).2
      (Routes.put R t name (q, st)) (if q = none then incAt D t else D) := by
  by_cases hm : cfg.mode = streamMode
  · have hqs := hq.2 hm
    have hne := hstream hqs
    have hq' : q ≠ none := by simpa [← Option.isSome_iff_ne_none] using hqs
    simp only [addToken, hcfg, hm, if_true, Bool.false_eq_true, if_false, hq']
    refine ⟨fun t' k => ?_, fun t' k => ?_, fun t' k => ?_, hv.loggers, hv.usage⟩
    · rw [Tokenized.get_add]
      unfold Routes.put
      split_ifs <;> simp [Routes.id, hv.ids]
    · simpa [Routes.storage_put_of_stream hR hqs] using hv.storages t' k
    · rw [Tokenized.get_add]
      by_cases h : t' = t ∧ k = name
      · obtain ⟨rfl, rfl⟩ := h
        simp [Routes.put, Routes.queue, hqs, hne]
      · rw [if_neg h, hv.consumers]
        unfold Routes.put
        simp [h]
  · have hq' : q = none := by
      by_contra hne
      exact hm (hq.1 (Option.isSome_iff_ne_none.2 hne))
    subst hq'
    have hR' : ∀ r, R t name = some r → r = (none, st) := hR
    have hc := loggerFor_consumers s t
    have hl := lookup_loggerFor s t
    have hne := fun t' (h : t' ≠ t) => lookup_loggerFor_ne s h
    have hu := hv.loggerFor_usage t
    have hids := loggerFor_ids s t
    have hst := loggerFor_storages s t
    simp only [addToken, hcfg, hm, if_false, Bool.false_eq_true, if_true]
    revert hc hl hne hu hids hst
    rcases s.loggerFor t with ⟨lu, s₁⟩
    intro hc hl hne hu hids hst
    dsimp only at hc hl hne hu hids hst
    refine ⟨fun t' k => ?_, fun t' k => ?_, fun t' k => ?_, fun t' => ?_, fun t' lu' hlu' => ?_⟩
    · rw [Tokenized.get_add, hids]
      unfold Routes.put
      split_ifs <;> simp [Routes.id, hv.ids]
    · rw [Tokenized.get_add, hst]
      unfold Routes.put
      split_ifs <;> simp [Routes.storage, hv.storages]
    · rw [Tokenized.get_add, hc, Routes.queue_put_of_batch hR']
      by_cases h : t' = t ∧ k = t
      · obtain ⟨rfl, rfl⟩ := h
        simp [loggerEntry, incAt, AList.lookup_insert]
      · rw [if_neg h, hv.consumers]
        by_cases hk : k = t'
        · subst hk
          have ht : k ≠ t := fun e => h ⟨e, e⟩
          simp [loggerEntry, incAt, ht, AList.lookup_insert_ne ht, hne k ht]
        · simp [hk]
    · by_cases ht : t' = t
      · subst ht; simp [AList.lookup_insert, incAt]
      · simpa [AList.lookup_insert_ne ht, hne t' ht, incAt, ht] using hv.loggers t'
    · by_cases ht : t' = t
      · subst ht
        simp only [AList.lookup_insert, Option.some.injEq] at hlu'
        subst hlu'
        simp [incAt, hu]
      · simp only [AList.lookup_insert_ne ht, hne t' ht] at hlu'
        simpa [incAt, ht] using hv.usage t' lu' hlu'

/-! ## The token loops -/

/-- **`remove`'s token loop keeps the view**, dropping the unit's route under every token it
visits and, for a batch unit, its share of each token's demand, down to the demand `E` of the
other units. -/
theorem removeTokens_view {acc : NewMaps} {E : String → Nat} {name : String} {unit : Unit}
    (hscope : ∀ t, acc.ids.get t name = none ∧ acc.storages.get t name = none ∧
      (name ≠ t → acc.consumers.get t name = none))
    (hback : ∀ t, (acc.consumers.get t t).isSome → 0 < E t) (rest : List String)
    (hstream : unit.eventQueue.isSome → name ∉ rest) {s : Service} {R : Routes}
    (hR : ∀ t r, R t name = some r → r.1 = unit.eventQueue)
    (hv : s.View acc R fun t => E t + if unit.eventQueue = none then rest.count t else 0) :
    ∃ s', s.removeTokens name unit rest = some s' ∧
      s'.View acc (fun t k => if k = name ∧ t ∈ rest then none else R t k) E := by
  induction rest generalizing s R with
  | nil => exact ⟨s, rfl, by simpa using hv⟩
  | cons t rest ih =>
    obtain ⟨s₁, h₁, hv₁⟩ := removeToken_view hv (hR t) (hscope t).1 (hscope t).2.1
      (hscope t).2.2 (fun hq e => hstream hq (e ▸ .head _)) (fun hq => by simp [hq])
      (fun hq hc => by have := hback t hc; simp [hq]; omega)
    have hD : (if unit.eventQueue = none then decAt (fun x => E x +
        if unit.eventQueue = none then (t :: rest).count x else 0) t else fun x => E x +
        if unit.eventQueue = none then (t :: rest).count x else 0) =
        fun x => E x + if unit.eventQueue = none then rest.count x else 0 := by
      funext x
      by_cases hq : unit.eventQueue = none <;> by_cases hx : x = t <;>
        simp [hq, hx, decAt, List.count_cons]
    rw [hD] at hv₁
    obtain ⟨s', h', hv'⟩ := ih (fun hq hm => hstream hq (.tail _ hm))
      (fun t' r hr => by unfold Routes.drop at hr; split_ifs at hr; exact hR t' r hr) hv₁
    have hR' : (fun t' k => if k = name ∧ t' ∈ rest then none else Routes.drop R t name t' k) =
        fun t' k => if k = name ∧ t' ∈ t :: rest then none else R t' k := by
      funext t' k
      unfold Routes.drop
      by_cases hk : k = name <;> by_cases ht : t' = t <;> simp [hk, ht]
    rw [hR'] at hv'
    exact ⟨s', by simp [removeTokens, h₁, h'], hv'⟩

/-- The token loop of a staged unit adds nothing. -/
theorem addTokens_staged {name : String} {cfg : DestinationConfig} (hcfg : cfg.staged = true)
    (q : Option Handle) (st : Handle) (s : Service) (acc : NewMaps) (l : List String) :
    addTokens name cfg q st s acc l = (s, acc) := by
  induction l with
  | nil => rfl
  | cons t l ih => simpa [addTokens, addToken, hcfg] using ih

/-- **`init`'s token loop keeps the view** for a non-staged unit, putting its route under every
token it visits and, for a batch unit, raising each token's demand by its occurrences. -/
theorem addTokens_view {name : String} {cfg : DestinationConfig} {q : Option Handle}
    {st : Handle} (hcfg : cfg.staged = false) (hq : q.isSome ↔ cfg.mode = streamMode)
    (rest : List String) (hstream : q.isSome → name ∉ rest) {s : Service} {acc : NewMaps}
    {R : Routes} {D : String → Nat} (hR : ∀ t r, R t name = some r → r = (q, st))
    (hv : s.View acc R D) :
    (addTokens name cfg q st s acc rest).1.View (addTokens name cfg q st s acc rest).2
      (fun t k => if k = name ∧ t ∈ rest then some (q, st) else R t k)
      (fun t => D t + if q = none then rest.count t else 0) := by
  induction rest generalizing s acc R D with
  | nil => simpa using hv
  | cons t rest ih =>
    have hv₁ := addToken_view hv hcfg (hR t) hq (fun hq e => hstream hq (e ▸ .head _))
    have := ih (fun hq hm => hstream hq (.tail _ hm))
      (fun t' r hr => by
        unfold Routes.put at hr
        split_ifs at hr
        · exact (Option.some.inj hr).symm
        · exact hR t' r hr) hv₁
    have hR' : (fun t' k => if k = name ∧ t' ∈ rest then some (q, st)
        else Routes.put R t name (q, st) t' k) =
        fun t' k => if k = name ∧ t' ∈ t :: rest then some (q, st) else R t' k := by
      funext t' k
      unfold Routes.put
      by_cases hk : k = name <;> by_cases ht : t' = t <;> simp [hk, ht]
    have hD : (fun x => (if q = none then incAt D t else D) x +
        if q = none then rest.count x else 0) =
        fun x => D x + if q = none then (t :: rest).count x else 0 := by
      funext x
      by_cases hq : q = none <;> by_cases hx : x = t <;> simp [hq, hx, incAt, List.count_cons]
      omega
    rw [hR', hD] at this
    exact this

/-! ## Between operations -/

/-- **Every live stream unit is routable**: it is not named like one of its tokens. -/
def UnitsAdmissible (s : Service) : Prop :=
  ∀ n u, s.unitsByName.lookup n = some u → u.eventQueue.isSome → n ∉ u.tokenIDs

theorem loggerDemand_eq (s : Service) (t : String) :
    s.loggerDemand t = GoMap.sumBy s.unitsByName fun _ u => u.demand t := rfl

theorem loggerDemand_fun (s : Service) :
    s.loggerDemand = fun t => GoMap.sumBy s.unitsByName fun _ u => u.demand t := rfl

/-- The demand of a token, split into a unit's share and the rest. -/
theorem loggerDemand_split {s : Service} {name : String} {unit : Unit}
    (hu : s.unitsByName.lookup name = some unit) (t : String) :
    s.loggerDemand t = GoMap.sumBy (s.unitsByName.erase name) (fun _ u => u.demand t) +
      unit.demand t := by
  rw [loggerDemand_eq, GoMap.sumBy_eq_at_add_erase _ _ name]
  simp [GoMap.at?, hu, Nat.add_comm]

/-- A live unit other than `name` that serves `t` as a batch unit keeps the demand of `t`
positive when `name` is gone. -/
theorem demand_erase_pos {units : GoMap Unit} {name m t : String} {u : Unit} (hm : m ≠ name)
    (hu : units.lookup m = some u) (hb : u.eventQueue = none) (hs : u.staged = false)
    (ht : t ∈ u.tokenIDs) : 0 < GoMap.sumBy (units.erase name) fun _ u => u.demand t := by
  have hle := GoMap.at?_le_sumBy (units.erase name) (fun _ u => u.demand t) m
  have hat : GoMap.at? (units.erase name) (fun _ u => u.demand t) m = u.tokenIDs.count t := by
    simp [GoMap.at?, AList.lookup_erase_ne hm, hu, Unit.demand, hb, hs]
  have := List.count_pos_iff.2 ht
  omega

theorem routesOf_erase_of_route (units : GoMap Unit) {name : String} {unit : Unit}
    (hu : units.lookup name = some unit) :
    (fun t k => if k = name ∧ t ∈ unit.tokenIDs then none else routesOf units t k) =
      routesOf (units.erase name) := by
  funext t k
  by_cases hk : k = name
  · subst hk
    simp only [routesOf, AList.lookup_erase, hu, Option.some_bind, Option.none_bind, true_and]
    split_ifs with ht
    · rfl
    · simp [Unit.route, ht]
  · simp [routesOf, hk, AList.lookup_erase_ne hk]

/-- **`remove` keeps the view between operations**, for a unit that is not a staged batch unit,
and does not panic. -/
theorem remove_view {s : Service} {acc : NewMaps} {name : String} {unit : Unit}
    (hv : s.View acc (routesOf s.unitsByName) s.loggerDemand)
    (hu : s.unitsByName.lookup name = some unit) (hb : unit.eventQueue = none → unit.staged = false)
    (hadm : s.UnitsAdmissible)
    (hscope : ∀ t, acc.ids.get t name = none ∧ acc.storages.get t name = none ∧
      (name ≠ t → acc.consumers.get t name = none))
    (hback : ∀ t, (acc.consumers.get t t).isSome → ∃ m u, m ≠ name ∧
      s.unitsByName.lookup m = some u ∧ u.eventQueue = none ∧ u.staged = false ∧
      t ∈ u.tokenIDs) :
    ∃ s', s.remove name unit = some s' ∧ s'.View acc (routesOf s'.unitsByName) s'.loggerDemand := by
  have hD : s.loggerDemand = fun t => GoMap.sumBy (s.unitsByName.erase name)
      (fun _ u => u.demand t) + if unit.eventQueue = none then unit.tokenIDs.count t else 0 := by
    funext t
    rw [loggerDemand_split hu]
    by_cases hq : unit.eventQueue = none
    · simp [Unit.demand, hq, hb hq]
    · simp [Unit.demand, hq]
  rw [hD] at hv
  obtain ⟨s₁, h₁, hv₁⟩ := removeTokens_view hscope
    (fun t hc => by
      obtain ⟨m, u, hm, hmu, hb, hs, ht⟩ := hback t hc
      exact demand_erase_pos hm hmu hb hs ht)
    unit.tokenIDs (hadm name unit hu)
    (fun t r hr => by
      simp only [routesOf, hu, Option.some_bind, Unit.route] at hr
      split_ifs at hr
      cases hr; rfl) hv
  refine ⟨_, by rw [remove, h₁]; rfl, ?_⟩
  show View _ acc (routesOf (s₁.unitsByName.erase name))
    fun t => GoMap.sumBy (s₁.unitsByName.erase name) fun _ u => u.demand t
  rw [(removeTokens_frame h₁).1, ← routesOf_erase_of_route _ hu]
  exact hv₁.of_maps rfl rfl rfl rfl

/-- The demand of a registry with a unit registered under a new name. -/
theorem demand_insert {units : GoMap Unit} {name : String} (hu : units.lookup name = none)
    (u : Unit) (t : String) :
    GoMap.sumBy (units.insert name u) (fun _ u => u.demand t) =
      GoMap.sumBy units (fun _ u => u.demand t) + u.demand t := by
  rw [GoMap.sumBy_insert, GoMap.sumBy_eq_at_add_erase units _ name]
  simp [GoMap.at?, hu, Nat.add_comm]

theorem routesOf_insert {units : GoMap Unit} {name : String} (hu : units.lookup name = none)
    (u : Unit) :
    routesOf (units.insert name u) =
      fun t k => if k = name ∧ t ∈ u.tokenIDs ∧ u.staged = false then
        some (u.eventQueue, u.storage) else routesOf units t k := by
  funext t k
  by_cases hk : k = name
  · subst hk
    simp only [routesOf, AList.lookup_insert, hu, Option.some_bind, Option.none_bind, Unit.route,
      true_and]
    split_ifs <;> simp_all
  · simp [routesOf, hk, AList.lookup_insert_ne hk]

/-- **The create step keeps the view between operations**, for a name no live unit holds and an
admissible config. -/
theorem createUnit_view {s : Service} {acc : NewMaps}
    (hv : s.View acc (routesOf s.unitsByName) s.loggerDemand) {name : String}
    (hu : s.unitsByName.lookup name = none) (deps : Collaborators) (cfg : DestinationConfig)
    (hash : UInt64) (hstream : cfg.mode = streamMode → name ∉ cfg.onlyTokens) :
    (s.createUnit deps name cfg hash acc).1.View (s.createUnit deps name cfg hash acc).2
      (routesOf (s.createUnit deps name cfg hash acc).1.unitsByName)
      (s.createUnit deps name cfg hash acc).1.loggerDemand := by
  rcases createUnit_cases s deps name cfg hash acc with ⟨-, h⟩ | ⟨-, -, h⟩ | ⟨-, -, h⟩ <;> rw [h]
  · exact hv
  · exact hv.of_maps rfl rfl rfl rfl
  · have hreg : (s.registered name cfg hash).View acc (routesOf s.unitsByName) s.loggerDemand :=
      hv.of_maps rfl rfl rfl rfl
    have hunits : (addTokens name cfg (s.createdQueue cfg) ⟨s.nextHandle⟩
        (s.registered name cfg hash) acc cfg.onlyTokens).1.unitsByName =
        s.unitsByName.insert name (newUnit cfg hash ⟨s.nextHandle⟩ (s.createdQueue cfg)) :=
      addTokens_unitsByName _ _ _ _ _ _ _
    have hq : (s.createdQueue cfg).isSome ↔ cfg.mode = streamMode := by
      simp [createdQueue_isSome]
    rw [loggerDemand_fun, hunits, routesOf_insert hu]
    simp only [demand_insert hu, ← loggerDemand_eq]
    cases hst : cfg.staged
    · have := @addTokens_view name cfg (s.createdQueue cfg) ⟨s.nextHandle⟩ hst hq cfg.onlyTokens
        (fun hqs => hstream (hq.1 hqs)) _ _ _ _ (fun t r hr => by simp [routesOf, hu] at hr) hreg
      have hD : (fun t => s.loggerDemand t +
          (newUnit cfg hash ⟨s.nextHandle⟩ (s.createdQueue cfg)).demand t) =
          fun t => s.loggerDemand t + if s.createdQueue cfg = none then
            cfg.onlyTokens.count t else 0 := by
        funext t
        simp [Unit.demand, newUnit, hst]
      rw [hD]
      simpa only [newUnit, hst, and_true] using this
    · rw [addTokens_staged hst]
      have hD : (fun t => s.loggerDemand t +
          (newUnit cfg hash ⟨s.nextHandle⟩ (s.createdQueue cfg)).demand t) = s.loggerDemand := by
        funext t
        simp [Unit.demand, newUnit, hst]
      rw [hD]
      simpa only [newUnit, hst, Bool.true_eq_false, and_false, if_false] using hreg

/-! ## The create loop

Between two iterations of the create loop the live maps lack the entries of the destinations
built so far, which wait in `acc`. `MidInv` says that the view of the live units holds once
`acc` is published, and where `acc`'s entries come from: only names already visited (`P`), and a
logger only for a token a visited batch unit serves. The next removal, of a name not visited
yet, then finds none of its keys in `acc`, and no logger of `acc` loses its last user. -/

/-- The three read maps keep no empty inner map. -/
def MapsNoEmpty (s : Service) : Prop :=
  s.consumersByTokenID.NoEmpty ∧ s.storagesByTokenID.NoEmpty ∧ s.destinationsIDByTokenID.NoEmpty

theorem MapsNoEmpty.removeTokens {s s' : Service} {name : String} {unit : Unit}
    {l : List String} (h : s.MapsNoEmpty) (hr : s.removeTokens name unit l = some s') :
    s'.MapsNoEmpty := by
  induction l generalizing s with
  | nil => cases hr; exact h
  | cons t l ih =>
    obtain ⟨s₁, h₁, hr⟩ := Option.bind_eq_some.1 hr
    refine ih ?_ hr
    rcases removeToken_cases h₁ with ⟨-, rfl⟩ | ⟨lu, -, -, ⟨-, rfl⟩ | ⟨-, rfl⟩⟩ <;>
      exact ⟨h.1.setOrDelete _ _, h.2.1.deleteName _ _, h.2.2.deleteName _ _⟩

theorem addToken_maps (s : Service) (name : String) (cfg : DestinationConfig)
    (q : Option Handle) (st : Handle) (acc : NewMaps) (t : String) :
    (s.addToken name cfg q st acc t).1.consumersByTokenID = s.consumersByTokenID ∧
      (s.addToken name cfg q st acc t).1.storagesByTokenID = s.storagesByTokenID ∧
      (s.addToken name cfg q st acc t).1.destinationsIDByTokenID = s.destinationsIDByTokenID := by
  unfold addToken
  split_ifs
  · exact ⟨rfl, rfl, rfl⟩
  · exact ⟨rfl, rfl, rfl⟩
  · have h := And.intro (loggerFor_consumers s t) (And.intro (loggerFor_storages s t)
      (loggerFor_ids s t))
    revert h
    rcases s.loggerFor t with ⟨lu, s₁⟩
    exact id

/-- The create step edits none of the read maps: its entries go to `acc`. -/
theorem createUnit_maps (s : Service) (deps : Collaborators) (name : String)
    (cfg : DestinationConfig) (hash : UInt64) (acc : NewMaps) :
    (s.createUnit deps name cfg hash acc).1.consumersByTokenID = s.consumersByTokenID ∧
      (s.createUnit deps name cfg hash acc).1.storagesByTokenID = s.storagesByTokenID ∧
      (s.createUnit deps name cfg hash acc).1.destinationsIDByTokenID =
        s.destinationsIDByTokenID := by
  suffices ∀ (l : List String) (s₀ : Service) (acc₀ : NewMaps) q st,
      (addTokens name cfg q st s₀ acc₀ l).1.consumersByTokenID = s₀.consumersByTokenID ∧
      (addTokens name cfg q st s₀ acc₀ l).1.storagesByTokenID = s₀.storagesByTokenID ∧
      (addTokens name cfg q st s₀ acc₀ l).1.destinationsIDByTokenID =
        s₀.destinationsIDByTokenID by
    rcases createUnit_cases s deps name cfg hash acc with ⟨-, h⟩ | ⟨-, -, h⟩ | ⟨-, -, h⟩ <;> rw [h]
    · exact ⟨rfl, rfl, rfl⟩
    · exact ⟨rfl, rfl, rfl⟩
    · exact this _ _ _ _ _
  intro l
  induction l with
  | nil => intros; exact ⟨rfl, rfl, rfl⟩
  | cons t l ih =>
    intro s₀ acc₀ q st
    obtain ⟨h₁, h₂, h₃⟩ := ih (s₀.addToken name cfg q st acc₀ t).1
      (s₀.addToken name cfg q st acc₀ t).2 q st
    obtain ⟨h₁', h₂', h₃'⟩ := addToken_maps s₀ name cfg q st acc₀ t
    exact ⟨h₁.trans h₁', h₂.trans h₂', h₃.trans h₃'⟩

/-- What `init`'s token loop adds to `acc`: IDs and storages under its own name, a stream
destination's queue under its own name, and a non-staged batch destination's logger under the
key of each of its tokens. -/
theorem addTokens_acc (name : String) (cfg : DestinationConfig) (q : Option Handle)
    (st : Handle) (l : List String) (s : Service) (acc : NewMaps) (t k : String) :
    (((addTokens name cfg q st s acc l).2.ids.get t k).isSome →
        (acc.ids.get t k).isSome ∨ k = name) ∧
    (((addTokens name cfg q st s acc l).2.storages.get t k).isSome →
        (acc.storages.get t k).isSome ∨ k = name) ∧
    (((addTokens name cfg q st s acc l).2.consumers.get t k).isSome →
        (acc.consumers.get t k).isSome ∨ (k = name ∧ t ∈ l ∧ cfg.mode = streamMode) ∨
          (k = t ∧ t ∈ l ∧ cfg.staged = false ∧ cfg.mode ≠ streamMode)) := by
  induction l generalizing s acc with
  | nil => exact ⟨.inl, .inl, .inl⟩
  | cons t' l ih =>
    obtain ⟨h₁, h₂, h₃⟩ := ih (s.addToken name cfg q st acc t').1
      (s.addToken name cfg q st acc t').2
    have hstep : (((s.addToken name cfg q st acc t').2.ids.get t k).isSome →
          (acc.ids.get t k).isSome ∨ k = name) ∧
        (((s.addToken name cfg q st acc t').2.storages.get t k).isSome →
          (acc.storages.get t k).isSome ∨ k = name) ∧
        (((s.addToken name cfg q st acc t').2.consumers.get t k).isSome →
          (acc.consumers.get t k).isSome ∨ (k = name ∧ t = t' ∧ cfg.mode = streamMode) ∨
            (k = t ∧ t = t' ∧ cfg.staged = false ∧ cfg.mode ≠ streamMode)) := by
      unfold addToken
      split_ifs with hs hm
      · exact ⟨.inl, .inl, .inl⟩
      · refine ⟨fun h => ?_, .inl, fun h => ?_⟩ <;> simp only [Tokenized.get_add] at h <;>
          split_ifs at h with hk
        · exact .inr hk.2
        · exact .inl h
        · exact .inr (.inl ⟨hk.2, hk.1, hm⟩)
        · exact .inl h
      · rcases s.loggerFor t' with ⟨lu, s₁⟩
        refine ⟨fun h => ?_, fun h => ?_, fun h => ?_⟩ <;> simp only [Tokenized.get_add] at h <;>
          split_ifs at h with hk
        · exact .inr hk.2
        · exact .inl h
        · exact .inr hk.2
        · exact .inl h
        · exact .inr (.inr ⟨hk.2.trans hk.1.symm, hk.1, by simpa using hs, hm⟩)
        · exact .inl h
    simp only [addTokens]
    refine ⟨fun h => (h₁ h).elim hstep.1 .inr, fun h => (h₂ h).elim hstep.2.1 .inr,
      fun h => ?_⟩
    rcases h₃ h with h | ⟨hk, ht, hm⟩ | ⟨hk, ht, hcfg⟩
    · rcases hstep.2.2 h with h | ⟨hk, ht, hm⟩ | ⟨hk, ht, hcfg⟩
      · exact .inl h
      · exact .inr (.inl ⟨hk, ht ▸ .head _, hm⟩)
      · exact .inr (.inr ⟨hk, ht ▸ .head _, hcfg⟩)
    · exact .inr (.inl ⟨hk, .tail _ ht, hm⟩)
    · exact .inr (.inr ⟨hk, .tail _ ht, hcfg⟩)

/-- What the create step adds to `acc`; a logger only for a token its new batch unit serves. -/
theorem createUnit_acc (s : Service) (deps : Collaborators) (name : String)
    (cfg : DestinationConfig) (hash : UInt64) (acc : NewMaps) (t k : String) :
    (((s.createUnit deps name cfg hash acc).2.ids.get t k).isSome →
        (acc.ids.get t k).isSome ∨ k = name) ∧
    (((s.createUnit deps name cfg hash acc).2.storages.get t k).isSome →
        (acc.storages.get t k).isSome ∨ k = name) ∧
    (((s.createUnit deps name cfg hash acc).2.consumers.get t k).isSome →
        (acc.consumers.get t k).isSome ∨
          (k = name ∧ t ∈ cfg.onlyTokens ∧ cfg.mode = streamMode) ∨
          (k = t ∧ ∃ u, (s.createUnit deps name cfg hash acc).1.unitsByName.lookup name = some u ∧
            u.eventQueue = none ∧ u.staged = false ∧ t ∈ u.tokenIDs)) := by
  rcases createUnit_cases s deps name cfg hash acc with ⟨-, h⟩ | ⟨-, -, h⟩ | ⟨-, -, h⟩ <;> rw [h]
  · exact ⟨.inl, .inl, .inl⟩
  · exact ⟨.inl, .inl, .inl⟩
  · obtain ⟨h₁, h₂, h₃⟩ := addTokens_acc name cfg (s.createdQueue cfg) ⟨s.nextHandle⟩
      cfg.onlyTokens (s.registered name cfg hash) acc t k
    refine ⟨h₁, h₂, fun hc => ?_⟩
    rcases h₃ hc with hc | hc | ⟨hk, ht, hs, hm⟩
    · exact .inl hc
    · exact .inr (.inl hc)
    · refine .inr (.inr ⟨hk, newUnit cfg hash ⟨s.nextHandle⟩ (s.createdQueue cfg),
        by rw [addTokens_unitsByName]; simp [registered], ?_, hs, ht⟩)
      simp [newUnit, createdQueue, hm]

/-- **The invariant between iterations of the create loop**, after visiting the names `P`. -/
structure MidInv (s : Service) (acc : NewMaps) (P : List String) : Prop where
  view : s.View acc (routesOf s.unitsByName) s.loggerDemand
  noEmpty : s.MapsNoEmpty
  admissible : s.UnitsAdmissible
  scope : ∀ t k, ((acc.ids.get t k).isSome → k ∈ P) ∧ ((acc.storages.get t k).isSome → k ∈ P) ∧
    ((acc.consumers.get t k).isSome → k ≠ t → k ∈ P)
  backing : ∀ t, (acc.consumers.get t t).isSome → ∃ m ∈ P, ∃ u,
    s.unitsByName.lookup m = some u ∧ u.eventQueue = none ∧ u.staged = false ∧ t ∈ u.tokenIDs

theorem MidInv.mono {s : Service} {acc : NewMaps} {P P' : List String} (h : s.MidInv acc P)
    (hP : ∀ k ∈ P, k ∈ P') : s.MidInv acc P' :=
  ⟨h.view, h.noEmpty, h.admissible,
    fun t k => let ⟨a, b, c⟩ := h.scope t k
      ⟨fun x => hP _ (a x), fun x => hP _ (b x), fun x y => hP _ (c x y)⟩,
    fun t ht => let ⟨m, hm, rest⟩ := h.backing t ht
      ⟨m, hP m hm, rest⟩⟩

/-- **Removing a unit that is not a staged batch unit, under a name not visited yet, keeps
`MidInv`**, and does not panic. -/
theorem MidInv.remove {s : Service} {acc : NewMaps} {P : List String} {name : String}
    {unit : Unit} (h : s.MidInv acc P) (hu : s.unitsByName.lookup name = some unit)
    (hb : unit.eventQueue = none → unit.staged = false) (hn : name ∉ P) :
    ∃ s', s.remove name unit = some s' ∧ s'.MidInv acc P := by
  have hnone : ∀ {α : Type} {o : Option α}, (o.isSome → name ∈ P) → o = none :=
    fun hs => Option.not_isSome_iff_eq_none.1 fun h' => hn (hs h')
  obtain ⟨s', h', hv⟩ := remove_view h.view hu hb h.admissible
    (fun t => ⟨hnone (h.scope t name).1, hnone (h.scope t name).2.1,
      fun hne => hnone fun hs => (h.scope t name).2.2 hs hne⟩)
    (fun t ht => by
      obtain ⟨m, hm, u, hmu, hb⟩ := h.backing t ht
      exact ⟨m, u, fun e => hn (e ▸ hm), hmu, hb⟩)
  obtain ⟨s₁, h₁, rfl⟩ := Option.map_eq_some'.1 h'
  have hunits : s₁.unitsByName = s.unitsByName := (removeTokens_frame h₁).1
  have hlook : ∀ m, m ≠ name →
      (s₁.unitsByName.erase name).lookup m = s.unitsByName.lookup m := fun m hm => by
    rw [AList.lookup_erase_ne hm, hunits]
  have hne := h.noEmpty.removeTokens h₁
  refine ⟨_, h', hv, hne, fun m u hm => ?_, h.scope, fun t ht => ?_⟩
  · have hne : m ≠ name := by rintro rfl; simp [AList.lookup_erase] at hm
    exact h.admissible m u (by rwa [← hlook m hne])
  · obtain ⟨m, hm, u, hmu, hb⟩ := h.backing t ht
    exact ⟨m, hm, u, by rw [hlook m fun e => hn (e ▸ hm)]; exact hmu, hb⟩

/-- A config whose token loop keeps the projection under `name`: not a stream destination
whose tokens contain `name`. -/
def CfgRoutable (name : String) (cfg : DestinationConfig) : Prop :=
  cfg.mode = streamMode → name ∉ cfg.onlyTokens

instance (name : String) (cfg : DestinationConfig) : Decidable (CfgRoutable name cfg) :=
  inferInstanceAs (Decidable (_ → _))

/-- **The create step on a name not visited yet, with no live unit and a routable config, keeps
`MidInv`**, the name now visited. -/
theorem MidInv.createUnit {s : Service} {acc : NewMaps} {P : List String} {name : String}
    (h : s.MidInv acc P) (hu : s.unitsByName.lookup name = none) (deps : Collaborators)
    (cfg : DestinationConfig) (hash : UInt64) (hcfg : CfgRoutable name cfg) :
    (s.createUnit deps name cfg hash acc).1.MidInv (s.createUnit deps name cfg hash acc).2
      (name :: P) := by
  have hunits := createUnit_unitsByName s deps name cfg hash acc
  obtain ⟨hc, hst, hids⟩ := createUnit_maps s deps name cfg hash acc
  have hlook : ∀ m, m ≠ name → (s.createUnit deps name cfg hash acc).1.unitsByName.lookup m =
      s.unitsByName.lookup m := fun m hm => by
    rw [hunits]; split_ifs <;> simp [AList.lookup_insert_ne hm]
  have hne : (s.createUnit deps name cfg hash acc).1.MapsNoEmpty := by
    rw [MapsNoEmpty, hc, hst, hids]; exact h.noEmpty
  refine ⟨createUnit_view h.view hu deps cfg hash hcfg, hne, fun m u hm => ?_, fun t k => ?_,
    fun t ht => ?_⟩
  · by_cases hmn : m = name
    · subst hmn
      rw [hunits] at hm
      split_ifs at hm with hok
      · simp only [AList.lookup_insert, Option.some.injEq] at hm
        subst hm
        have hq := createdQueue_isSome s cfg
        intro hq'
        simp only [newUnit] at hq'
        exact hcfg (by simpa [hq'] using hq)
      · rw [hu] at hm; cases hm
    · exact h.admissible m u (by rwa [← hlook m hmn])
  · obtain ⟨a, b, c⟩ := createUnit_acc s deps name cfg hash acc t k
    obtain ⟨a', b', c'⟩ := h.scope t k
    refine ⟨fun hs => (a hs).elim (fun h => .tail _ (a' h)) (fun e => e ▸ .head _),
      fun hs => (b hs).elim (fun h => .tail _ (b' h)) (fun e => e ▸ .head _), fun hs hkt => ?_⟩
    rcases c hs with h | ⟨hk, -⟩ | ⟨hk, -⟩
    · exact .tail _ (c' h hkt)
    · exact hk ▸ .head _
    · exact absurd hk hkt
  · rcases (createUnit_acc s deps name cfg hash acc t t).2.2 ht with hc | ⟨rfl, ht, hm⟩ | ⟨-, hu'⟩
    · obtain ⟨m, hm, u, hmu, hb⟩ := h.backing t hc
      have hmn : m ≠ name := by rintro rfl; rw [hu] at hmu; cases hmu
      exact ⟨m, .tail _ hm, u, by rw [hlook m hmn]; exact hmu, hb⟩
    · exact absurd ht (hcfg hm)
    · exact ⟨name, .head _, hu'⟩

/-- The deletion pass over registered units of distinct names, none a staged batch unit, keeps
`MidInv` with nothing visited, and does not panic. -/
theorem MidInv.removeAll {s : Service} {acc : NewMaps} {l : List (GoMap.Entry Unit)}
    (h : s.MidInv acc []) (hl : l.NodupKeys)
    (hreg : ∀ e ∈ l, s.unitsByName.lookup e.1 = some e.2)
    (hb : ∀ e ∈ l, e.2.eventQueue = none → e.2.staged = false) :
    ∃ s', s.removeAll l = some s' ∧ s'.MidInv acc [] := by
  induction l generalizing s with
  | nil => exact ⟨s, rfl, h⟩
  | cons e l ih =>
    obtain ⟨s₁, h₁, hm₁⟩ := h.remove (hreg e (.head _)) (hb e (.head _)) (List.not_mem_nil _)
    have hl' := List.nodupKeys_cons.1 hl
    obtain ⟨s', h', hm⟩ := ih hm₁ hl'.2 (fun e' he' => by
      have hne : e'.1 ≠ e.1 := fun he => hl'.1 (he ▸ List.mem_keys_of_mem he')
      rw [(remove_frame h₁).1, AList.lookup_erase_ne hne]
      exact hreg e' (.tail _ he')) fun e' he' => hb e' (.tail _ he')
    exact ⟨s', by simp only [Service.removeAll, h₁, Option.some_bind, h'], hm⟩

section CreateLoop

variable (getHash : String → DestinationConfig → UInt64) (deps : Collaborators)

/-- **An iteration of the create loop on a name not visited yet, with a routable config, keeps
`MidInv`**, and does not panic, when a staged batch unit under the name keeps its hash. -/
theorem MidInv.createOne {s : Service} {acc : NewMaps} {P : List String} {name : String}
    {d : DestinationConfig} (h : s.MidInv acc P) (hn : name ∉ P)
    (hcfg : CfgRoutable name (deps.resolve d))
    (hkeep : ∀ u, s.unitsByName.lookup name = some u → u.eventQueue = none → u.staged = true →
      u.hash = getHash name (deps.resolve d)) :
    ∃ p, s.createOne getHash deps acc name d = some p ∧ p.1.MidInv p.2 (name :: P) := by
  cases hu : s.unitsByName.lookup name with
  | none => exact ⟨_, createOne_of_none getHash hu, h.createUnit hu deps _ _ hcfg⟩
  | some unit =>
    by_cases hh : unit.hash = getHash name (deps.resolve d)
    · exact ⟨_, createOne_of_unchanged getHash hu hh, h.mono fun _ => .tail _⟩
    · obtain ⟨s', h', hm⟩ := h.remove hu
        (fun hq => Bool.eq_false_iff.2 fun hs => hh (hkeep unit hu hq hs)) hn
      have hu' : s'.unitsByName.lookup name = none := by
        rw [(remove_frame h').1]; exact AList.lookup_erase _ _
      exact ⟨_, by rw [createOne_of_changed getHash hu hh, h']; rfl,
        hm.createUnit hu' deps _ _ hcfg⟩

/-- **The create loop over distinct names, none visited yet, with routable configs keeps
`MidInv`**, and does not panic, when every staged batch unit it reaches keeps its hash. -/
theorem MidInv.createPass {s : Service} {acc : NewMaps} {P : List String}
    {l : List (GoMap.Entry DestinationConfig)} (h : s.MidInv acc P) (hl : l.NodupKeys)
    (hP : ∀ e ∈ l, e.1 ∉ P) (hcfg : ∀ e ∈ l, CfgRoutable e.1 (deps.resolve e.2))
    (hkeep : ∀ e ∈ l, ∀ u, s.unitsByName.lookup e.1 = some u → u.eventQueue = none →
      u.staged = true → u.hash = getHash e.1 (deps.resolve e.2)) :
    ∃ p P', Service.createPass getHash deps s acc l = some p ∧ p.1.MidInv p.2 P' := by
  induction l generalizing s acc P with
  | nil => exact ⟨_, P, rfl, h⟩
  | cons e l ih =>
    obtain ⟨p₁, h₁, hm₁⟩ := h.createOne getHash deps (hP e (.head _)) (hcfg e (.head _))
      (hkeep e (.head _))
    have hl' := List.nodupKeys_cons.1 hl
    have hne : ∀ e' ∈ l, e'.1 ≠ e.1 := fun e' he' he => hl'.1 (he ▸ List.mem_keys_of_mem he')
    obtain ⟨p, P', h', hm⟩ := ih hm₁ hl'.2
      (fun e' he' hm => (List.mem_cons.1 hm).elim (hne e' he') (hP e' (.tail _ he')))
      (fun e' he' => hcfg e' (.tail _ he')) fun e' he' u hu => hkeep e' (.tail _ he') u
        (by rwa [createOne_unitsByName_ne getHash deps h₁ (hne e' he')] at hu)
    exact ⟨p, P', by simp only [Service.createPass, h₁, Option.some_bind, h'], hm⟩

end CreateLoop

/-- **`AddAll` publishes the collected entries**: the view stays, with nothing left to
publish. -/
theorem MidInv.publish {s : Service} {acc : NewMaps} {P : List String} (h : s.MidInv acc P) :
    (s.publish acc).MidInv {} [] := by
  refine ⟨⟨fun t k => ?_, fun t k => ?_, fun t k => ?_, h.view.loggers, h.view.usage⟩,
    ⟨h.noEmpty.1.addAll _, h.noEmpty.2.1.addAll _, h.noEmpty.2.2.addAll _⟩, h.admissible,
    fun t k => by simp, fun t ht => by simp at ht⟩
  · simpa [Service.publish, Tokenized.get_addAll] using h.view.ids t k
  · simpa [Service.publish, Tokenized.get_addAll] using h.view.storages t k
  · simpa [Service.publish, Tokenized.get_addAll, loggerEntry] using h.view.consumers t k

/-- The empty service shows nothing and has no loggers. -/
theorem midInv_empty : Service.empty.MidInv {} [] := by
  refine ⟨⟨fun t k => rfl, fun t k => rfl, fun t k => ?_, fun t => ?_, fun t lu h => ?_⟩,
    ⟨?_, ?_, ?_⟩, fun n u h => ?_, fun t k => by simp, fun t ht => by simp at ht⟩ <;>
    simp_all [Service.empty, loggerEntry, routesOf, Routes.queue, loggerDemand, Tokenized.NoEmpty]

/-- **A reconciliation the projection survives**, from the state `s`: no config of the snapshot,
resolved, is a stream destination whose tokens contain its own name, and every live staged batch
unit keeps its name in the snapshot with an unchanged hash, so that `init` neither removes nor
recreates it. -/
def Reconcilable (getHash : String → DestinationConfig → UInt64) (s : Service)
    (deps : Collaborators) (dc : GoMap DestinationConfig) : Prop :=
  (∀ e ∈ dc.entries, CfgRoutable e.1 (deps.resolve e.2)) ∧
  ∀ e ∈ s.unitsByName.entries, e.2.eventQueue = none → e.2.staged = true →
    (dc.lookup e.1).map (fun d => getHash e.1 (deps.resolve d)) = some e.2.hash

instance (getHash : String → DestinationConfig → UInt64) (s : Service) (deps : Collaborators)
    (dc : GoMap DestinationConfig) : Decidable (Reconcilable getHash s deps dc) :=
  inferInstanceAs (Decidable (_ ∧ _))

/-- **A reconciliation the projection survives, from a state where `MidInv` holds with nothing
collected, does not panic, and `MidInv` holds after it.** -/
theorem MidInv.init {s : Service} (h : s.MidInv {} [])
    (getHash : String → DestinationConfig → UInt64) (deps : Collaborators) (ord : InitOrders)
    {dc : GoMap DestinationConfig} (hdc : s.Reconcilable getHash deps dc) :
    ∃ s', s.init getHash deps ord dc = some s' ∧ s'.MidInv {} [] := by
  obtain ⟨hreg, hnd⟩ := toDelete_registered s dc ord.toDelete
  have hb : ∀ e ∈ ord.toDelete.arrange (s.toDelete dc),
      e.2.eventQueue = none → e.2.staged = false := fun e he hq => Bool.eq_false_iff.2 fun hs => by
    have hk := hdc.2 e (AList.mem_lookup_iff.1 (hreg e he)) hq hs
    have hn := ((mem_keys_toDelete s dc ord.toDelete e.1).1 (List.mem_keys_of_mem he)).2
    rw [AList.lookup_eq_none.2 hn] at hk
    cases hk
  obtain ⟨s₀, h₀, hm₀⟩ := h.removeAll hnd hreg hb
  have hkeep : ∀ e ∈ ord.dc.arrange dc.entries, ∀ u, s₀.unitsByName.lookup e.1 = some u →
      u.eventQueue = none → u.staged = true → u.hash = getHash e.1 (deps.resolve e.2) := by
    intro e he u hu hq hs
    have hd : dc.lookup e.1 = some e.2 := (GoMap.mem_arrange ord.dc dc e.1 e.2).1 he
    rw [lookup_removeAll_toDelete h₀, if_pos (AList.lookup_isSome.1 (by rw [hd]; rfl))] at hu
    have hk := hdc.2 ⟨e.1, u⟩ (AList.mem_lookup_iff.1 hu) hq hs
    rw [hd, Option.map_some'] at hk
    exact (Option.some.inj hk).symm
  obtain ⟨p, _, hp, hm⟩ := hm₀.createPass getHash deps (GoMap.nodupKeys_arrange ord.dc dc)
    (fun _ _ => List.not_mem_nil _) (fun e he => hdc.1 e ((ord.dc.perm _).subset he)) hkeep
  exact ⟨_, by rw [Service.init, h₀, Option.some_bind, hp]; rfl, hm.publish⟩

/-! ## The projection between operations -/

/-- **The read maps are the projection of the live units**, as the specification states it. For
every token `t` and name `n`: (a) `n` has an ID under `t` exactly when the unit of `n` is built
from a non-staged config serving `t`; (b) the queue of such a stream unit is the consumer under
`(t, n)`; (c) the consumer under `(t, t)` is there exactly when such a batch unit serves `t`, and
it is then `t`'s shared logger; (d) the storage under `(t, n)` is there exactly when the unit of
`n` is such a batch unit, and it is then the unit's storage; (e) the consumers of `t` have no
other keys; (f) no token maps to an empty inner map. A batch unit is one without a queue. -/
def Projected (s : Service) : Prop :=
  (∀ t n, (s.destinationsIDByTokenID.get t n).isSome ↔
    ∃ u, s.unitsByName.lookup n = some u ∧ u.staged = false ∧ t ∈ u.tokenIDs) ∧
  (∀ t n u q, s.unitsByName.lookup n = some u → u.staged = false → t ∈ u.tokenIDs →
    u.eventQueue = some q → s.consumersByTokenID.get t n = some (some q)) ∧
  (∀ t, ((s.consumersByTokenID.get t t).isSome ↔ ∃ n u, s.unitsByName.lookup n = some u ∧
      u.staged = false ∧ t ∈ u.tokenIDs ∧ u.eventQueue = none) ∧
    ∀ c, s.consumersByTokenID.get t t = some c →
      ∃ lu, s.loggersUsageByTokenID.lookup t = some lu ∧ c = some lu.logger) ∧
  (∀ t n, ((s.storagesByTokenID.get t n).isSome ↔ ∃ u, s.unitsByName.lookup n = some u ∧
      u.staged = false ∧ t ∈ u.tokenIDs ∧ u.eventQueue = none) ∧
    ∀ u x, s.unitsByName.lookup n = some u → s.storagesByTokenID.get t n = some x →
      x = u.storage) ∧
  (∀ t n, (s.consumersByTokenID.get t n).isSome → n = t ∨ ∃ u q,
    s.unitsByName.lookup n = some u ∧ u.staged = false ∧ t ∈ u.tokenIDs ∧
      u.eventQueue = some q) ∧
  s.MapsNoEmpty

theorem routesOf_eq_some {units : GoMap Unit} {t n : String} {r : Option Handle × Handle} :
    routesOf units t n = some r ↔ ∃ u, units.lookup n = some u ∧ u.staged = false ∧
      t ∈ u.tokenIDs ∧ (u.eventQueue, u.storage) = r := by
  simp only [routesOf, Option.bind_eq_some, Unit.route]
  constructor
  · rintro ⟨u, hu, hr⟩
    split_ifs at hr with h
    cases hr
    exact ⟨u, hu, h.1, h.2, rfl⟩
  · rintro ⟨u, hu, hs, ht, rfl⟩
    exact ⟨u, hu, by simp [hs, ht]⟩

/-- A token's demand is positive exactly when a live non-staged batch unit serves it. -/
theorem loggerDemand_pos_iff (s : Service) (t : String) :
    0 < s.loggerDemand t ↔ ∃ n u, s.unitsByName.lookup n = some u ∧ u.staged = false ∧
      t ∈ u.tokenIDs ∧ u.eventQueue = none := by
  rw [loggerDemand_eq, GoMap.sumBy_pos_iff]
  simp only [Unit.demand]
  refine exists_congr fun n => exists_congr fun u => and_congr_right fun _ => ?_
  split_ifs with h
  · simp [List.count_pos_iff, h, and_comm]
  · simpa using fun hs _ hq => h ⟨hq, hs⟩

/-- **`MidInv` with nothing collected is the projection.** -/
theorem MidInv.projected {s : Service} (h : s.MidInv {} []) : s.Projected := by
  have hid : ∀ t k, s.destinationsIDByTokenID.get t k = Routes.id (routesOf s.unitsByName t k) :=
    fun t k => by simpa using h.view.ids t k
  have hst : ∀ t k,
      s.storagesByTokenID.get t k = Routes.storage (routesOf s.unitsByName t k) :=
    fun t k => by simpa using h.view.storages t k
  have hc : ∀ t k, s.consumersByTokenID.get t k =
      if k = t then s.loggerEntry s.loggerDemand t else Routes.queue (routesOf s.unitsByName t k) :=
    fun t k => by simpa using h.view.consumers t k
  refine ⟨fun t n => ?_, fun t n u q hu hs ht hq => ?_, fun t => ⟨?_, fun c hc' => ?_⟩,
    fun t n => ⟨?_, fun u x hu hx => ?_⟩, fun t n hn => ?_, h.noEmpty⟩
  · rw [hid, Routes.id, Option.isSome_map', Option.isSome_iff_exists]
    simp only [routesOf_eq_some]
    exact ⟨fun ⟨_, u, hu, hs, ht, _⟩ => ⟨u, hu, hs, ht⟩,
      fun ⟨u, hu, hs, ht⟩ => ⟨_, u, hu, hs, ht, rfl⟩⟩
  · have hnt : n ≠ t := by
      rintro rfl; exact h.admissible n u hu (by simp [hq]) ht
    rw [hc, if_neg hnt, (routesOf_eq_some.2 ⟨u, hu, hs, ht, rfl⟩)]
    simp [Routes.queue, hq]
  · rw [hc, if_pos rfl, ← loggerDemand_pos_iff, loggerEntry]
    have := h.view.loggers t
    split_ifs with hd <;> simp_all
  · rw [hc, if_pos rfl, loggerEntry] at hc'
    split_ifs at hc' with hd
    obtain ⟨lu, hl, rfl⟩ := Option.map_eq_some'.1 hc'
    exact ⟨lu, hl, rfl⟩
  · rw [hst, Routes.storage, Option.isSome_iff_exists]
    simp only [Option.bind_eq_some, routesOf_eq_some]
    constructor
    · rintro ⟨_, _, ⟨u, hu, hs, ht, rfl⟩, hx⟩
      split_ifs at hx with hq
      exact ⟨u, hu, hs, ht, hq⟩
    · rintro ⟨u, hu, hs, ht, hq⟩
      exact ⟨u.storage, _, ⟨u, hu, hs, ht, rfl⟩, by simp [hq]⟩
  · rw [hst, Routes.storage, Option.bind_eq_some] at hx
    obtain ⟨r, hr, hx⟩ := hx
    obtain ⟨u', hu', -, -, rfl⟩ := routesOf_eq_some.1 hr
    rw [hu] at hu'; cases hu'
    split_ifs at hx; cases hx; rfl
  · by_cases hnt : n = t
    · exact .inl hnt
    · rw [hc, if_neg hnt, Routes.queue, Option.isSome_iff_exists] at hn
      obtain ⟨_, hb⟩ := hn
      obtain ⟨r, hr, hx⟩ := Option.bind_eq_some.1 hb
      obtain ⟨u, hu, hs, ht, rfl⟩ := routesOf_eq_some.1 hr
      split_ifs at hx with hq
      obtain ⟨q, hq⟩ := Option.isSome_iff_exists.1 hq
      exact .inr ⟨u, q, hu, hs, ht, hq⟩

/-- **`MidInv` with nothing collected gives the right reference counts.** -/
theorem MidInv.usageMatches {s : Service} (h : s.MidInv {} []) : s.UsageMatches :=
  fun t => ⟨h.view.loggers t, h.view.usage t⟩

/-- A config a run on admissible snapshots may build under `name`: not a staged batch
destination, and not a stream destination whose tokens contain `name`. -/
def CfgAdmissible (name : String) (cfg : DestinationConfig) : Prop :=
  (cfg.mode ≠ streamMode → cfg.staged = false) ∧ (cfg.mode = streamMode → name ∉ cfg.onlyTokens)

instance (name : String) (cfg : DestinationConfig) : Decidable (CfgAdmissible name cfg) :=
  inferInstanceAs (Decidable (_ ∧ _))

/-- **An admissible snapshot**: every config, resolved, is admissible. -/
def Admissible (deps : Collaborators) (dc : GoMap DestinationConfig) : Prop :=
  ∀ e ∈ dc.entries, CfgAdmissible e.1 (deps.resolve e.2)

instance (deps : Collaborators) (dc : GoMap DestinationConfig) : Decidable (Admissible deps dc) :=
  inferInstanceAs (Decidable (∀ e ∈ dc.entries, _))

/-- No live unit is a staged batch unit. -/
def NoStagedBatch (s : Service) : Prop :=
  ∀ n u, s.unitsByName.lookup n = some u → u.eventQueue = none → u.staged = false

/-- From a state without staged batch units, an admissible snapshot is one the projection
survives. -/
theorem NoStagedBatch.reconcilable {s : Service} (h : s.NoStagedBatch)
    (getHash : String → DestinationConfig → UInt64) {deps : Collaborators}
    {dc : GoMap DestinationConfig} (hdc : Admissible deps dc) :
    s.Reconcilable getHash deps dc :=
  ⟨fun e he => (hdc e he).2, fun e he hq hs => by
    rw [h e.1 e.2 (AList.mem_lookup_iff.2 he) hq] at hs
    cases hs⟩

end Service

open Service

/-- A reconciliation on an admissible snapshot builds no staged batch unit. -/
theorem Service.NoStagedBatch.init {getHash : String → DestinationConfig → UInt64} {s s' : Service}
    (h : s.NoStagedBatch) {deps : Collaborators} {ord : InitOrders} {dc : GoMap DestinationConfig}
    (hdc : Admissible deps dc) (hi : s.init getHash deps ord dc = some s') : s'.NoStagedBatch := by
  intro n u hu hq
  obtain ⟨hnone, hsome⟩ := init_unitsByName hi n
  cases hd : dc.lookup n with
  | none => rw [hnone hd] at hu; cases hu
  | some d =>
    rcases hsome d hd with ⟨u₀, h₀, -, hu₀⟩ | ⟨-, -, hnew⟩
    · rw [hu₀] at hu
      cases hu
      exact h n _ h₀ hq
    · obtain ⟨-, -, hs, hqs⟩ := hnew u hu
      rw [hs]
      refine (hdc ⟨n, d⟩ (AList.mem_lookup_iff.1 hd)).1 fun hm => ?_
      simp [hq, hm] at hqs

/-- Every state of a run on snapshots the projection survives satisfies `MidInv` with nothing
collected. -/
theorem Reachable.midInv {getHash : String → DestinationConfig → UInt64} {s : Service}
    (hs : Reachable getHash (Reconcilable getHash) s) : s.MidInv {} [] := by
  induction hs with
  | empty => exact midInv_empty
  | init deps ord dc _ hok h ih =>
    obtain ⟨s', h', hm⟩ := ih.init _ deps ord hok
    exact (Option.some.inj (h'.symm.trans h)) ▸ hm

/-- The sample snapshot with a staged batch destination `dryrun` of the token `t`. -/
def stagedSnapshot : GoMap DestinationConfig :=
  sampleSnapshot.insert "dryrun" ⟨"redshift", "batch", ["t"], true, []⟩

/-- Every state of a run on admissible snapshots has no staged batch unit and satisfies `MidInv`
with nothing collected. -/
theorem Reachable.admissible_midInv {getHash : String → DestinationConfig → UInt64} {s : Service}
    (hs : Reachable getHash (fun _ => Admissible) s) : s.NoStagedBatch ∧ s.MidInv {} [] := by
  induction hs with
  | empty => exact ⟨fun n u h => (by cases h), midInv_empty⟩
  | init deps ord dc _ hok h ih =>
    obtain ⟨s', h', hm⟩ := ih.2.init _ deps ord (ih.1.reconcilable _ hok)
    exact ⟨ih.1.init hok h, (Option.some.inj (h'.symm.trans h)) ▸ hm⟩

theorem admissible_sampleSnapshot : Admissible .sample sampleSnapshot := by decide

/-- **A reconciliation on an admissible snapshot, from any state of a run on admissible
snapshots, does not panic**, in every iteration order. -/
theorem init_isSome_of_admissible {getHash : String → DestinationConfig → UInt64} {s : Service}
    (hs : Reachable getHash (fun _ => Admissible) s) (deps : Collaborators) (ord : InitOrders)
    {dc : GoMap DestinationConfig} (hdc : Admissible deps dc) :
    (s.init getHash deps ord dc).isSome := by
  obtain ⟨hn, hm⟩ := hs.admissible_midInv
  obtain ⟨s', h, -⟩ := hm.init getHash deps ord (hn.reconcilable getHash hdc)
  rw [h]; rfl

/-- Reloading the sample snapshot in the sample deployment does not panic. -/
theorem sample_init_isSome_of_admissible :
    Reachable sampleHash (fun _ => Admissible) sampleState ∧ Admissible .sample sampleSnapshot ∧
      (sampleState.init sampleHash .sample ⟨.reversed, .reversed⟩ sampleSnapshot).isSome :=
  ⟨.init _ _ _ .empty admissible_sampleSnapshot init_sample, admissible_sampleSnapshot,
    init_isSome_of_admissible (.init _ _ _ .empty admissible_sampleSnapshot init_sample) _ _
      admissible_sampleSnapshot⟩

end Jitsu.Destinations
