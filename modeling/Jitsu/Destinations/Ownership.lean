import Jitsu.Destinations.Create

/-! # Every handle is closed exactly once

The service owns three kinds of handles: the storage and the queue of each unit, which come from
`storageFactory.Create`, and the shared logger of each token, which comes from
`CreateIncomingLogger`. This file proves the conservation law behind the spec's "no leaks, no
double close" (§5): for every handle,

  `createdCount = closeCount + owners`,

where `owners` counts the slots of live units and `LoggerUsage`s that hold it, and no handle is
created twice. Every operation keeps the law (`Accounted`), so every reachable state satisfies it,
and `Close()` then closes each handle that is still owned exactly once more. -/

namespace Jitsu.Destinations

/-- The handles an event creates: the storage and queue a successful `Create` returns, and the
logger `CreateIncomingLogger` returns. -/
def Event.created : Event → List Handle
  | .create _ _ (some (storage, eventQueue)) => storage :: eventQueue.toList
  | .createLogger _ logger => [logger]
  | _ => []

namespace Service

/-- How many times the handle was created. -/
def createdCount (s : Service) (h : Handle) : Nat := ((s.events.map Event.created).flatten).count h

/-- How many times `Close()` was called on the handle. -/
def closeCount (s : Service) (h : Handle) : Nat := s.events.count (.close h)

/-- **How many slots hold the handle**: a unit's storage, a unit's queue, a `LoggerUsage`'s
logger. -/
def owners (s : Service) (h : Handle) : Nat :=
  GoMap.sumBy s.unitsByName (fun _ u => u.handles.count h) +
    GoMap.sumBy s.loggersUsageByTokenID (fun _ lu => if lu.logger = h then 1 else 0)

/-- **The ownership invariant.** Every handle created is either closed or owned, once; no handle
is created twice; and handles from `nextHandle` on are not created yet. -/
structure Accounted (s : Service) : Prop where
  balance : ∀ h, s.createdCount h = s.closeCount h + s.owners h
  once : ∀ h, s.createdCount h ≤ 1
  fresh : ∀ h : Handle, s.nextHandle ≤ h.id → s.createdCount h = 0

/-! ## Counting after an update -/

theorem count_map_close (xs : List Handle) (h : Handle) :
    (xs.map Event.close).count (.close h) = xs.count h :=
  List.count_map_of_injective _ _ (fun _ _ e => Event.close.inj e) _

theorem createdCount_of_events {s s' : Service} {new : List Event}
    (he : s'.events = s.events ++ new) (h : Handle) :
    s'.createdCount h = s.createdCount h + ((new.map Event.created).flatten).count h := by
  simp [createdCount, he]

theorem closeCount_of_events {s s' : Service} {new : List Event}
    (he : s'.events = s.events ++ new) (h : Handle) :
    s'.closeCount h = s.closeCount h + new.count (.close h) := by
  simp [closeCount, he]

theorem owners_of_maps {s s' : Service} (hu : s'.unitsByName = s.unitsByName)
    (hl : s'.loggersUsageByTokenID = s.loggersUsageByTokenID) (h : Handle) :
    s'.owners h = s.owners h := by
  simp [owners, hu, hl]

/-- Calls that are all `Close()` create nothing. -/
theorem createdCount_append_closes {s s' : Service} {new : List Event}
    (he : s'.events = s.events ++ new) (hc : ∀ e ∈ new, ∃ x, e = .close x) (h : Handle) :
    s'.createdCount h = s.createdCount h := by
  have : (new.map Event.created).flatten = [] := by
    simp only [List.flatten_eq_nil_iff, List.mem_map]
    rintro _ ⟨e, he, rfl⟩
    obtain ⟨x, rfl⟩ := hc e he
    rfl
  simp [createdCount, he, this]

/-- What the entry of a unit registry under `n` contributes to `owners`. -/
theorem unit_at? {m : GoMap Unit} {n : String} {u : Unit} (h : m.lookup n = some u) (x : Handle) :
    m.at? (fun _ u => u.handles.count x) n = u.handles.count x := by
  simp [GoMap.at?, h]

/-- What the entry of the logger registry under `t` contributes to `owners`. -/
theorem logger_at? {m : GoMap LoggerUsage} {t : String} {lu : LoggerUsage}
    (h : m.lookup t = some lu) (x : Handle) :
    m.at? (fun _ lu => if lu.logger = x then 1 else 0) t = if lu.logger = x then 1 else 0 := by
  simp [GoMap.at?, h]

/-- **A step that creates nothing and moves handles from owned to closed keeps the invariant.** -/
theorem Accounted.of_balance {s s' : Service} (ha : s.Accounted)
    (hcr : ∀ x, s'.createdCount x = s.createdCount x)
    (hbal : ∀ x, s'.closeCount x + s'.owners x = s.closeCount x + s.owners x)
    (hn : s'.nextHandle = s.nextHandle) : s'.Accounted :=
  ⟨fun x => by rw [hcr, hbal, ha.balance], fun x => by rw [hcr]; exact ha.once x,
    fun x hx => by rw [hcr]; exact ha.fresh x (hn ▸ hx)⟩

/-! ## `remove` keeps the balance -/

/-- One iteration of `remove`'s token loop closes a logger exactly when it drops its slot. -/
theorem Accounted.removeToken {s s' : Service} {name t : String} {unit : Unit}
    (ha : s.Accounted) (h : s.removeToken name unit t = some s') : s'.Accounted := by
  obtain ⟨-, hn, new, he, hc⟩ := removeToken_frame h
  refine ha.of_balance (createdCount_append_closes he hc) (fun x => ?_) hn
  rcases removeToken_cases h with ⟨-, rfl⟩ | ⟨lu, -, hlu, ⟨-, rfl⟩ | ⟨-, rfl⟩⟩
  · rfl
  · have := GoMap.sumBy_erase s.loggersUsageByTokenID
      (fun _ lu => if lu.logger = x then 1 else 0) t
    rw [logger_at? hlu] at this
    simp only [owners, closeCount, unregister_events, unregister_unitsByName, unregister_loggers,
      List.count_append, List.count_singleton', Event.close.injEq] at this ⊢
    split_ifs at this ⊢ <;> omega
  · have := GoMap.sumBy_insert_add s.loggersUsageByTokenID
      (fun _ lu => if lu.logger = x then 1 else 0) t { lu with usage := lu.usage - 1 }
    rw [logger_at? hlu] at this
    simp only [owners, closeCount, unregister_events, unregister_unitsByName,
      unregister_loggers] at this ⊢
    omega

theorem Accounted.removeTokens {s s' : Service} {name : String} {unit : Unit} {l : List String}
    (ha : s.Accounted) (h : s.removeTokens name unit l = some s') : s'.Accounted := by
  induction l generalizing s with
  | nil => cases h; exact ha
  | cons t l ih =>
    obtain ⟨s₁, h₁, h⟩ := Option.bind_eq_some.1 h
    exact ih (ha.removeToken h₁) h

/-- **`remove` closes what it drops**: removing the unit registered under `name` moves its
handles, and the loggers that reach zero, from owned to closed. -/
theorem Accounted.remove {s s' : Service} {name : String} {unit : Unit} (ha : s.Accounted)
    (hu : s.unitsByName.lookup name = some unit) (h : s.remove name unit = some s') :
    s'.Accounted := by
  obtain ⟨s₁, h₁, rfl⟩ := Option.map_eq_some'.1 h
  have ha₁ := ha.removeTokens h₁
  have hu₁ : s₁.unitsByName.lookup name = some unit := by rw [(removeTokens_frame h₁).1, hu]
  refine ha₁.of_balance (fun x => ?_) (fun x => ?_) rfl
  · exact @createdCount_append_closes s₁ _ (unit.handles.map .close) rfl (by simp) x
  · have := GoMap.sumBy_erase s₁.unitsByName (fun _ u => u.handles.count x) name
    rw [unit_at? hu₁] at this
    simp only [owners, closeCount, closeUnit, List.count_append, count_map_close] at this ⊢
    omega

/-- The deletion pass keeps the invariant when it removes registered units, each once. -/
theorem Accounted.removeAll {s s' : Service} {l : List (GoMap.Entry Unit)} (ha : s.Accounted)
    (hl : ∀ e ∈ l, s.unitsByName.lookup e.1 = some e.2) (hnd : l.NodupKeys)
    (h : s.removeAll l = some s') : s'.Accounted := by
  induction l generalizing s with
  | nil => cases h; exact ha
  | cons e l ih =>
    obtain ⟨s₁, h₁, h⟩ := Option.bind_eq_some.1 h
    rw [List.nodupKeys_cons] at hnd
    refine ih (ha.remove (hl e (.head _)) h₁) (fun e' he' => ?_) hnd.2 h
    have hne : e'.1 ≠ e.1 := fun hk => hnd.1 (hk ▸ List.mem_keys_of_mem he')
    rw [(remove_frame h₁).1, AList.lookup_erase_ne hne]
    exact hl e' (.tail _ he')

/-- The entries `init` deletes are registered units with distinct names, in any order. -/
theorem toDelete_registered (s : Service) (dc : GoMap DestinationConfig) (o : RangeOrder Unit) :
    (∀ e ∈ o.arrange (s.toDelete dc), s.unitsByName.lookup e.1 = some e.2) ∧
      (o.arrange (s.toDelete dc)).NodupKeys := by
  refine ⟨fun e he => ?_, ?_⟩
  · have he' := (List.mem_filter.1 ((o.perm _).subset he)).1
    exact AList.mem_lookup_iff.2 he'
  · exact (List.perm_nodupKeys (o.perm _)).2
      (s.unitsByName.nodupKeys.sublist (List.filter_sublist _))

/-! ## Creation keeps the balance -/

/-- The "get or create" step leaves the token's `LoggerUsage` registered. -/
theorem lookup_loggerFor (s : Service) (t : String) :
    (s.loggerFor t).2.loggersUsageByTokenID.lookup t = some (s.loggerFor t).1 := by
  unfold loggerFor
  cases h : s.loggersUsageByTokenID.lookup t <;> simp [h, AList.lookup_insert]

/-- **A step that creates fresh handles and gives each of them one owner keeps the invariant.** -/
theorem Accounted.of_create {s s' : Service} {xs : List Handle} {k : Nat} (ha : s.Accounted)
    (hcr : ∀ x, s'.createdCount x = s.createdCount x + xs.count x)
    (hown : ∀ x, s'.owners x = s.owners x + xs.count x)
    (hcl : ∀ x, s'.closeCount x = s.closeCount x) (hn : s'.nextHandle = s.nextHandle + k)
    (hnd : xs.Nodup) (hxs : ∀ x ∈ xs, s.nextHandle ≤ x.id ∧ x.id < s.nextHandle + k) :
    s'.Accounted := by
  refine ⟨fun x => by rw [hcr, hown, hcl, ha.balance]; omega, fun x => ?_, fun x hx => ?_⟩
  · rw [hcr]
    by_cases hx : x ∈ xs
    · rw [ha.fresh x (hxs x hx).1, List.count_eq_one_of_mem hnd hx]
    · rw [List.count_eq_zero_of_not_mem hx]; exact ha.once x
  · have hx' : x ∉ xs := fun hm => by have := hxs x hm; omega
    rw [hcr, List.count_eq_zero_of_not_mem hx', ha.fresh x (by omega)]

/-- A fresh logger is owned by the `LoggerUsage` made for it. -/
theorem Accounted.loggerFor {s : Service} (ha : s.Accounted) (t : String) :
    (s.loggerFor t).2.Accounted := by
  unfold Service.loggerFor
  cases hl : s.loggersUsageByTokenID.lookup t with
  | some lu => exact ha
  | none =>
    refine @Accounted.of_create _ _ [⟨s.nextHandle⟩] 1 ha (fun x => ?_) (fun x => ?_)
      (fun x => ?_) rfl (List.nodup_singleton _) (by simp)
    · rw [createdCount_of_events rfl]; simp [Event.created]
    · have := GoMap.sumBy_insert_add s.loggersUsageByTokenID
        (fun _ lu => if lu.logger = x then 1 else 0) t ⟨⟨s.nextHandle⟩, 0⟩
      simp only [GoMap.at?, hl, Option.elim] at this
      simp only [owners, List.count_singleton']
      omega
    · rw [closeCount_of_events rfl]; simp

/-- Writing a token's `LoggerUsage` back with another count keeps its logger's single owner. -/
theorem Accounted.setUsage {s : Service} {t : String} {lu : LoggerUsage} (ha : s.Accounted)
    (hl : s.loggersUsageByTokenID.lookup t = some lu) (usage : Int) :
    ({ s with loggersUsageByTokenID := s.loggersUsageByTokenID.insert t { lu with usage } } :
      Service).Accounted := by
  refine ha.of_balance (fun _ => rfl) (fun x => ?_) rfl
  have := GoMap.sumBy_insert_add s.loggersUsageByTokenID
    (fun _ lu => if lu.logger = x then 1 else 0) t { lu with usage }
  rw [logger_at? hl] at this
  simp only [owners, closeCount] at this ⊢
  omega

/-- One iteration of `init`'s token loop: at most one fresh logger, owned by its `LoggerUsage`. -/
theorem Accounted.addToken {s : Service} (ha : s.Accounted) (name : String)
    (cfg : DestinationConfig) (q : Option Handle) (st : Handle) (acc : NewMaps) (t : String) :
    (s.addToken name cfg q st acc t).1.Accounted := by
  unfold Service.addToken
  split_ifs
  · exact ha
  · exact ha
  · have hl := lookup_loggerFor s t
    have ha₁ := ha.loggerFor t
    revert hl ha₁
    rcases s.loggerFor t with ⟨lu, s₁⟩
    exact fun hl ha₁ => ha₁.setUsage hl _

theorem Accounted.addTokens {s : Service} (ha : s.Accounted) (name : String)
    (cfg : DestinationConfig) (q : Option Handle) (st : Handle) (acc : NewMaps)
    (l : List String) : (addTokens name cfg q st s acc l).1.Accounted := by
  induction l generalizing s acc with
  | nil => exact ha
  | cons t l ih => exact ih (ha.addToken name cfg q st acc t) _

/-- **The create step keeps the invariant**: `Create`'s fresh storage and queue are owned by the
unit registered under a name no live unit holds. -/
theorem Accounted.createUnit {s : Service} {name : String} (ha : s.Accounted)
    (hu : s.unitsByName.lookup name = none) (deps : Collaborators) (cfg : DestinationConfig)
    (hash : UInt64) (acc : NewMaps) : (s.createUnit deps name cfg hash acc).1.Accounted := by
  rcases createUnit_cases s deps name cfg hash acc with ⟨-, h⟩ | ⟨-, -, h⟩ | ⟨-, -, h⟩ <;> rw [h]
  · exact ha
  · refine ha.of_balance (fun x => ?_) (fun x => ?_) rfl
    · rw [createdCount_of_events rfl]; simp [Event.created]
    · rw [closeCount_of_events rfl]; simp [owners]
  · have hq : (s.createdQueue cfg).toList = [] ∨
        (s.createdQueue cfg).toList = [⟨s.nextHandle + 1⟩] := by
      unfold createdQueue; split_ifs <;> simp
    refine Accounted.addTokens (@Accounted.of_create _ _
      (⟨s.nextHandle⟩ :: (s.createdQueue cfg).toList) 2 ha (fun x => ?_) (fun x => ?_)
      (fun x => ?_) rfl ?_ ?_) _ _ _ _ _ _
    · rw [createdCount_of_events rfl]; simp [Event.created]
    · have := GoMap.sumBy_insert_add s.unitsByName (fun _ u => u.handles.count x) name
        (newUnit cfg hash ⟨s.nextHandle⟩ (s.createdQueue cfg))
      simp only [GoMap.at?, hu, Option.elim] at this
      simp only [owners, registered, newUnit, Unit.handles] at this ⊢
      omega
    · rw [closeCount_of_events rfl]; simp
    · rcases hq with hq | hq <;> simp [hq]
    · rcases hq with hq | hq <;> simp [hq]

/-- One iteration of `init`'s create loop keeps the invariant. -/
theorem Accounted.createOne {s : Service} {p : Service × NewMaps} (ha : s.Accounted)
    (getHash : String → DestinationConfig → UInt64) (deps : Collaborators) (acc : NewMaps)
    (name : String) (d : DestinationConfig) (h : s.createOne getHash deps acc name d = some p) :
    p.1.Accounted := by
  rcases createOne_cases getHash h with ⟨_, -, -, rfl⟩ | ⟨_, s₁, hu, -, h₁, rfl⟩ | ⟨hu, rfl⟩
  · exact ha
  · refine (ha.remove hu h₁).createUnit ?_ _ _ _ _
    rw [(remove_frame h₁).1, AList.lookup_erase]
  · exact ha.createUnit hu _ _ _ _

theorem Accounted.createPass {s : Service} {p : Service × NewMaps} (ha : s.Accounted)
    (getHash : String → DestinationConfig → UInt64) (deps : Collaborators) (acc : NewMaps)
    (l : List (GoMap.Entry DestinationConfig))
    (h : createPass getHash deps s acc l = some p) : p.1.Accounted := by
  induction l generalizing s acc with
  | nil => cases h; exact ha
  | cons e l ih =>
    obtain ⟨p₁, h₁, h⟩ := Option.bind_eq_some.1 h
    exact ih (ha.createOne getHash deps acc e.1 e.2 h₁) _ h

/-- **`init` keeps the invariant.** -/
theorem Accounted.init {s s' : Service} (ha : s.Accounted)
    (getHash : String → DestinationConfig → UInt64) (deps : Collaborators) (ord : InitOrders)
    (dc : GoMap DestinationConfig) (h : s.init getHash deps ord dc = some s') : s'.Accounted := by
  obtain ⟨s₁, h₁, h⟩ := Option.bind_eq_some.1 h
  obtain ⟨p, h₂, rfl⟩ := Option.map_eq_some'.1 h
  obtain ⟨hreg, hnd⟩ := toDelete_registered s dc ord.toDelete
  have ha₂ := (ha.removeAll hreg hnd h₁).createPass getHash deps {} _ h₂
  exact ⟨ha₂.balance, ha₂.once, ha₂.fresh⟩

theorem accounted_empty : Service.empty.Accounted :=
  ⟨fun _ => rfl, fun _ => Nat.zero_le _, fun _ _ => rfl⟩

/-! ## `Close()` -/

/-- A sum over the entries in any `range` order is the sum over the map. -/
theorem sum_arrange {α : Type} (o : RangeOrder α) (m : GoMap α) (f : String → α → Nat) :
    ((o.arrange m.entries).map fun e => f e.1 e.2).sum = GoMap.sumBy m f :=
  ((o.perm _).map _).sum_eq

/-- Counting the `Close()` calls of a loop that closes one handle per element. -/
theorem count_close_map {β : Type} (l : List β) (g : β → Handle) (x : Handle) :
    (l.map fun e => Event.close (g e)).count (.close x) =
      (l.map fun e => if g e = x then 1 else 0).sum := by
  induction l with
  | nil => rfl
  | cons e l ih =>
    simp only [List.map_cons, List.count_cons, ih, List.sum_cons, beq_iff_eq, Event.close.injEq]
    omega

/-- **`Close()` closes every owned handle once more**, whatever the order of its loops. -/
theorem closeCount_close (s : Service) (ord : CloseOrders) (closeErr : Handle → Option String)
    (x : Handle) : (s.close ord closeErr).1.closeCount x = s.closeCount x + s.owners x := by
  have hl := sum_arrange ord.loggers s.loggersUsageByTokenID fun _ lu =>
    if lu.logger = x then 1 else 0
  have hu := sum_arrange ord.units s.unitsByName fun _ u => u.handles.count x
  simp only [close, closeCount, owners, List.count_append, List.count_flatten, List.map_map,
    Function.comp_def, count_map_close, count_close_map, ← hl, ← hu]
  omega

end Service

open Service

variable {getHash : String → DestinationConfig → UInt64}
  {ok : Service → Collaborators → GoMap DestinationConfig → Prop}

/-- Every reachable state satisfies the ownership invariant. -/
theorem Reachable.accounted {s : Service} (hs : Reachable getHash ok s) : s.Accounted := by
  induction hs with
  | empty => exact accounted_empty
  | init deps ord dc _ _ h ih => exact ih.init getHash deps ord dc h

/-- **No leak and no double close, over every run.** In every reachable state, each handle created
so far (once: none is created twice) is either open and held by exactly one slot of a live unit
or `LoggerUsage`, or closed once and held by none, and a handle never created is neither. After
`Close()`, whatever the orders of its loops and whatever errors the individual closes return,
every created handle has been closed exactly once, and no other handle at all. -/
theorem close_closes_each_handle_once {s : Service} (hs : Reachable getHash ok s)
    (ord : CloseOrders) (closeErr : Handle → Option String) :
    (∀ x, s.createdCount x ≤ 1) ∧
    (∀ x, s.createdCount x = 1 →
      (s.closeCount x = 0 ∧ s.owners x = 1) ∨ (s.closeCount x = 1 ∧ s.owners x = 0)) ∧
    (∀ x, s.createdCount x = 0 → s.closeCount x = 0 ∧ s.owners x = 0) ∧
    ∀ x, (s.close ord closeErr).1.closeCount x = s.createdCount x := by
  have ha := hs.accounted
  refine ⟨ha.once, fun x hx => ?_, fun x hx => ?_, fun x => ?_⟩
  · have := ha.balance x; omega
  · have := ha.balance x; omega
  · rw [closeCount_close, ha.balance]

/-- `Close()` on the sample deployment, with every individual close failing, closes each created
handle once. -/
theorem sample_close_closes_each_handle_once :
    Reachable sampleHash (fun _ _ _ => True) sampleState ∧
      ∀ x, (sampleState.close .listed (fun _ => some "closed")).1.closeCount x =
        sampleState.createdCount x :=
  ⟨reachable_sampleState, (close_closes_each_handle_once reachable_sampleState _ _).2.2.2⟩

end Jitsu.Destinations
