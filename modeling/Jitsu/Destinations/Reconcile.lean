import Jitsu.Destinations.Create

/-! # What a reconciliation leaves in the unit registry

`init(dc)` decides the fate of each name on its own: a name the snapshot lacks loses its unit; a
name whose live unit has an unchanged hash keeps it; any other name of the snapshot ends with a
fresh unit exactly when its authorization is non-empty and `Create` succeeds. `CreateOutcome`
states this per name, and `init_unitsByName` proves that `init` realizes it for every name, every
prior registry and every iteration order. -/

namespace Jitsu.Destinations

namespace Service

variable {s : Service} {name : String} {cfg : DestinationConfig} {hash : UInt64} {acc : NewMaps}

/-! ## The token loop and the create step -/

theorem loggerFor_unitsByName (s : Service) (t : String) :
    (s.loggerFor t).2.unitsByName = s.unitsByName := by
  unfold loggerFor; split <;> rfl

theorem addToken_unitsByName (s : Service) (name : String) (cfg : DestinationConfig)
    (q : Option Handle) (st : Handle) (acc : NewMaps) (t : String) :
    (s.addToken name cfg q st acc t).1.unitsByName = s.unitsByName := by
  unfold addToken
  split_ifs
  · rfl
  · rfl
  · have := loggerFor_unitsByName s t
    revert this
    rcases s.loggerFor t with ⟨lu, s₁⟩
    exact id

/-- The token loop of `init` leaves the unit registry alone. -/
theorem addTokens_unitsByName (name : String) (cfg : DestinationConfig) (q : Option Handle)
    (st : Handle) (s : Service) (acc : NewMaps) (l : List String) :
    (addTokens name cfg q st s acc l).1.unitsByName = s.unitsByName := by
  induction l generalizing s acc with
  | nil => rfl
  | cons t l ih => exact (ih _ _).trans (addToken_unitsByName s name cfg q st acc t)

/-- The registry after the create step: the new unit under `name`, when one is built. -/
theorem createUnit_unitsByName (s : Service) (deps : Collaborators) (name : String)
    (cfg : DestinationConfig) (hash : UInt64) (acc : NewMaps) :
    (s.createUnit deps name cfg hash acc).1.unitsByName =
      if cfg.onlyTokens.length ≠ 0 ∧ deps.createOk name cfg = true then
        s.unitsByName.insert name (newUnit cfg hash ⟨s.nextHandle⟩ (s.createdQueue cfg))
      else s.unitsByName := by
  rcases createUnit_cases s deps name cfg hash acc with ⟨h₀, h⟩ | ⟨h₀, hok, h⟩ | ⟨h₀, hok, h⟩ <;>
    rw [h]
  · simp [h₀]
  · simp [hok]
  · rw [addTokens_unitsByName]; simp [h₀, hok, registered]

/-- The queue `Create` returns is there exactly for a stream destination. -/
theorem createdQueue_isSome (s : Service) (cfg : DestinationConfig) :
    (s.createdQueue cfg).isSome = decide (cfg.mode = streamMode) := by
  unfold createdQueue; split_ifs with h <;> simp [h]

/-! ## One name -/

variable (getHash : String → DestinationConfig → UInt64) (deps : Collaborators)

/-- **What the create loop leaves under the name `n` of a snapshot entry `d`**, given the unit
`before` it: an unchanged unit stays; otherwise a unit is there exactly when the resolved tokens
are non-empty and `Create` succeeds, and it is built from the resolved config and its hash. -/
def CreateOutcome (n : String) (d : DestinationConfig) (before after : Option Unit) : Prop :=
  (∃ u, before = some u ∧ u.hash = getHash n (deps.resolve d) ∧ after = some u) ∨
  ((∀ u, before = some u → u.hash ≠ getHash n (deps.resolve d)) ∧
    (after.isSome ↔ (deps.resolve d).onlyTokens.length ≠ 0 ∧
      deps.createOk n (deps.resolve d) = true) ∧
    ∀ u, after = some u → u.tokenIDs = (deps.resolve d).onlyTokens ∧
      u.hash = getHash n (deps.resolve d) ∧ u.staged = (deps.resolve d).staged ∧
      u.eventQueue.isSome = decide ((deps.resolve d).mode = streamMode))

/-- The create step of a name that holds no unit realizes the "otherwise" branch. -/
theorem createUnit_outcome (s : Service) (n : String) (cfg : DestinationConfig) (hash : UInt64)
    (acc : NewMaps) (hu : s.unitsByName.lookup n = none) :
    let after := (s.createUnit deps n cfg hash acc).1.unitsByName.lookup n
    (after.isSome ↔ cfg.onlyTokens.length ≠ 0 ∧ deps.createOk n cfg = true) ∧
    ∀ u, after = some u → u.tokenIDs = cfg.onlyTokens ∧ u.hash = hash ∧ u.staged = cfg.staged ∧
      u.eventQueue.isSome = decide (cfg.mode = streamMode) := by
  simp only [createUnit_unitsByName]
  split_ifs with h
  · rw [AList.lookup_insert]
    refine ⟨by simpa using h, fun u hu => ?_⟩
    obtain rfl := Option.some.inj hu
    exact ⟨rfl, rfl, rfl, createdQueue_isSome s cfg⟩
  · exact ⟨by simpa [hu] using h, by simp [hu]⟩

/-- One iteration of the create loop touches the registry only under its own name. -/
theorem createOne_unitsByName_ne {p : Service × NewMaps} {n m : String} {d : DestinationConfig}
    (h : s.createOne getHash deps acc n d = some p) (hm : m ≠ n) :
    p.1.unitsByName.lookup m = s.unitsByName.lookup m := by
  rcases createOne_cases getHash h with ⟨_, -, -, rfl⟩ | ⟨_, s₁, -, -, h₁, rfl⟩ | ⟨-, rfl⟩
  · rfl
  · rw [createUnit_unitsByName, (remove_frame h₁).1]
    split_ifs <;> simp [AList.lookup_insert_ne hm, AList.lookup_erase_ne hm]
  · rw [createUnit_unitsByName]
    split_ifs <;> simp [AList.lookup_insert_ne hm]

/-- **One iteration of the create loop realizes `CreateOutcome` under its name.** -/
theorem createOne_outcome {p : Service × NewMaps} {n : String} {d : DestinationConfig}
    (h : s.createOne getHash deps acc n d = some p) :
    CreateOutcome getHash deps n d (s.unitsByName.lookup n) (p.1.unitsByName.lookup n) := by
  rcases createOne_cases getHash h with ⟨u, hu, hh, rfl⟩ | ⟨u, s₁, hu, hh, h₁, rfl⟩ | ⟨hu, rfl⟩
  · exact .inl ⟨u, hu, hh, hu⟩
  · refine .inr ⟨fun u' hu' => by rw [hu] at hu'; cases hu'; exact hh, ?_⟩
    exact createUnit_outcome deps s₁ n _ _ acc (by rw [(remove_frame h₁).1, AList.lookup_erase])
  · refine .inr ⟨(fun u' hu' => by rw [hu] at hu'; cases hu'), ?_⟩
    exact createUnit_outcome deps s n _ _ acc hu

/-! ## The create loop and the deletion pass -/

theorem createPass_unitsByName_not_mem {p : Service × NewMaps}
    {l : List (GoMap.Entry DestinationConfig)} {m : String}
    (h : createPass getHash deps s acc l = some p) (hm : m ∉ l.keys) :
    p.1.unitsByName.lookup m = s.unitsByName.lookup m := by
  induction l generalizing s acc with
  | nil => cases h; rfl
  | cons e l ih =>
    obtain ⟨p₁, h₁, h⟩ := Option.bind_eq_some.1 h
    rw [List.keys_cons, List.mem_cons, not_or] at hm
    rw [ih h hm.2, createOne_unitsByName_ne getHash deps h₁ hm.1]

/-- **The create loop realizes `CreateOutcome` under every name it visits**, whatever the order
of its visits. -/
theorem createPass_outcome {p : Service × NewMaps} {l : List (GoMap.Entry DestinationConfig)}
    (h : createPass getHash deps s acc l = some p) (hl : l.NodupKeys) {n : String}
    {d : DestinationConfig} (hd : (⟨n, d⟩ : GoMap.Entry DestinationConfig) ∈ l) :
    CreateOutcome getHash deps n d (s.unitsByName.lookup n) (p.1.unitsByName.lookup n) := by
  induction l generalizing s acc with
  | nil => cases hd
  | cons e l ih =>
    obtain ⟨p₁, h₁, hrest⟩ := Option.bind_eq_some.1 h
    rw [List.nodupKeys_cons] at hl
    rcases List.mem_cons.1 hd with rfl | hd
    · rw [createPass_unitsByName_not_mem getHash deps hrest hl.1]
      exact createOne_outcome getHash deps h₁
    · have hne : n ≠ e.1 := fun hk => hl.1 (hk ▸ List.mem_keys_of_mem hd)
      rw [← createOne_unitsByName_ne getHash deps h₁ hne]
      exact ih hrest hl.2 hd

/-- Erasing the names of a list of entries, one after the other. -/
theorem lookup_foldl_erase {α : Type} (l : List (GoMap.Entry Unit)) (m : GoMap α) (n : String) :
    (l.foldl (fun m e => m.erase e.1) m).lookup n = if n ∈ l.keys then none else m.lookup n := by
  induction l generalizing m with
  | nil => simp
  | cons e l ih =>
    simp only [List.foldl_cons, ih, List.keys_cons, List.mem_cons]
    by_cases h : n = e.1
    · subst h; simp [AList.lookup_erase]
    · simp [h, AList.lookup_erase_ne h]

/-- The names the deletion pass visits are those of the live units the snapshot lacks. -/
theorem mem_keys_toDelete (s : Service) (dc : GoMap DestinationConfig) (o : RangeOrder Unit)
    (n : String) : n ∈ (o.arrange (s.toDelete dc)).keys ↔ n ∈ s.unitsByName ∧ n ∉ dc := by
  rw [List.keys, ((o.perm _).map _).mem_iff, ← List.keys]
  constructor
  · intro hn
    obtain ⟨b, hb⟩ := List.exists_of_mem_keys hn
    have := List.mem_filter.1 hb
    exact ⟨AList.mem_keys.2 (List.mem_keys_of_mem this.1), by simpa using this.2⟩
  · rintro ⟨hn, hnd⟩
    obtain ⟨b, hb⟩ := List.exists_of_mem_keys (AList.mem_keys.1 hn)
    exact List.mem_keys_of_mem (List.mem_filter.2 ⟨hb, by simpa using hnd⟩)

/-- **The registry after the deletion pass**: the names of the snapshot keep their units, and no
other name has one. -/
theorem lookup_removeAll_toDelete {s s₀ : Service} {dc : GoMap DestinationConfig}
    {o : RangeOrder Unit} (h : s.removeAll (o.arrange (s.toDelete dc)) = some s₀) (n : String) :
    s₀.unitsByName.lookup n = if n ∈ dc then s.unitsByName.lookup n else none := by
  rw [(removeAll_frame h).1, lookup_foldl_erase]
  by_cases hn : n ∈ dc
  · simp [mem_keys_toDelete, hn]
  · simp only [mem_keys_toDelete, hn, not_false_eq_true, and_true, if_false]
    split_ifs with hm
    · rfl
    · exact AList.lookup_eq_none.2 hm

end Service

open Service

variable {getHash : String → DestinationConfig → UInt64}

/-- **The unit registry after `init`**: a name the snapshot lacks has no unit, and every name of
the snapshot ends as `CreateOutcome` says, for every prior registry and every iteration order. -/
theorem init_unitsByName {s s' : Service} {deps : Collaborators} {ord : InitOrders}
    {dc : GoMap DestinationConfig} (h : s.init getHash deps ord dc = some s') (n : String) :
    (dc.lookup n = none → s'.unitsByName.lookup n = none) ∧
    ∀ d, dc.lookup n = some d →
      CreateOutcome getHash deps n d (s.unitsByName.lookup n) (s'.unitsByName.lookup n) := by
  obtain ⟨s₁, h₁, h⟩ := Option.bind_eq_some.1 h
  obtain ⟨p, h₂, rfl⟩ := Option.map_eq_some'.1 h
  refine ⟨fun hn => ?_, fun d hd => ?_⟩
  · have hn' : n ∉ dc := AList.lookup_eq_none.1 hn
    show (p.1.unitsByName).lookup n = none
    rw [createPass_unitsByName_not_mem getHash deps h₂ (by rwa [GoMap.mem_keys_arrange]),
      lookup_removeAll_toDelete h₁, if_neg hn']
  · have := createPass_outcome getHash deps h₂ (GoMap.nodupKeys_arrange ord.dc dc)
      ((GoMap.mem_arrange ord.dc dc n d).2 hd)
    rwa [lookup_removeAll_toDelete h₁, if_pos (AList.lookup_isSome.1 (by rw [hd]; rfl))] at this

/-! ## Reloading the same snapshot -/

namespace Service

variable (getHash : String → DestinationConfig → UInt64) (deps : Collaborators)

/-- **A snapshot entry the registry already agrees with**: its live unit has the current hash, or
it has none and the create step would skip it again. -/
def Settled (s : Service) (n : String) (d : DestinationConfig) : Prop :=
  (∃ u, s.unitsByName.lookup n = some u ∧ u.hash = getHash n (deps.resolve d)) ∨
  (s.unitsByName.lookup n = none ∧
    ¬((deps.resolve d).onlyTokens.length ≠ 0 ∧ deps.createOk n (deps.resolve d) = true))

/-- What `CreateOutcome` leaves is settled. -/
theorem CreateOutcome.settled {s : Service} {n : String} {d : DestinationConfig}
    {before : Option Unit}
    (h : CreateOutcome getHash deps n d before (s.unitsByName.lookup n)) :
    Settled getHash deps s n d := by
  rcases h with ⟨u, -, hh, hu⟩ | ⟨-, hiff, hnew⟩
  · exact .inl ⟨u, hu, hh⟩
  · cases hu : s.unitsByName.lookup n with
    | none => exact .inr ⟨hu, by simpa [hu] using hiff⟩
    | some u => exact .inl ⟨u, hu, (hnew u hu).2.1⟩

/-- One iteration of the create loop on a settled entry only retries a failing `Create`. -/
theorem createOne_settled {s : Service} (acc : NewMaps) {n : String} {d : DestinationConfig}
    (hs : Settled getHash deps s n d) :
    ∃ new, s.createOne getHash deps acc n d =
        some ({ s with events := s.events ++ new }, acc) ∧
      ∀ e ∈ new, ∃ n c, e = .create n c none := by
  unfold createOne
  rcases hs with ⟨u, hu, hh⟩ | ⟨hu, hskip⟩
  · exact ⟨[], by simp [hu, hh], by simp⟩
  · simp only [hu]
    rcases createUnit_cases s deps n (deps.resolve d) (getHash n (deps.resolve d)) acc with
      ⟨-, h⟩ | ⟨-, -, h⟩ | ⟨h₀, hok, -⟩
    · exact ⟨[], by simp [h], by simp⟩
    · exact ⟨[.create n (deps.resolve d) none], by rw [h], by simp⟩
    · exact absurd ⟨h₀, hok⟩ hskip

/-- **The create loop over settled entries changes nothing but the call log.** -/
theorem createPass_settled {s : Service} (acc : NewMaps)
    {l : List (GoMap.Entry DestinationConfig)} (hs : ∀ e ∈ l, Settled getHash deps s e.1 e.2) :
    ∃ new, createPass getHash deps s acc l = some ({ s with events := s.events ++ new }, acc) ∧
      ∀ e ∈ new, ∃ n c, e = .create n c none := by
  induction l generalizing s with
  | nil => exact ⟨[], by simp [createPass], by simp⟩
  | cons e l ih =>
    obtain ⟨new₁, h₁, hc₁⟩ := createOne_settled getHash deps acc (hs e (.head _))
    obtain ⟨new, h, hc⟩ := @ih { s with events := s.events ++ new₁ }
      (fun e' he' => by simpa [Settled] using hs e' (.tail _ he'))
    refine ⟨new₁ ++ new, ?_, ?_⟩
    · simp only [createPass, h₁, Option.some_bind, h, List.append_assoc]
    · intro e' he'
      rcases List.mem_append.1 he' with he' | he'
      exacts [hc₁ e' he', hc e' he']

/-- A registry whose names are all in the snapshot gives the deletion pass nothing to do. -/
theorem toDelete_eq_nil {s : Service} {dc : GoMap DestinationConfig}
    (h : ∀ n, s.unitsByName.lookup n ≠ none → n ∈ dc) : s.toDelete dc = [] := by
  rw [toDelete, List.filter_eq_nil_iff]
  intro e he
  simpa using h e.1 (by rw [AList.mem_lookup_iff.2 he]; simp)

end Service

open Service

/-- **Reloading the same snapshot is a no-op.** After `init(dc)` from any state, a second
`init(dc)` with the same collaborator answers and any iteration orders returns the same service
— the same units, `LoggerUsage`s (counts included), consumers, storages and IDs, and no handle
allocated — having called nothing but `Create` again for the destinations whose `Create` failed:
it removes no unit, closes no handle and creates no logger. -/
theorem init_idempotent {s s₁ : Service} {deps : Collaborators} {ord ord' : InitOrders}
    {dc : GoMap DestinationConfig} (h : s.init getHash deps ord dc = some s₁) :
    ∃ new, s₁.init getHash deps ord' dc = some { s₁ with events := s₁.events ++ new } ∧
      ∀ e ∈ new, ∃ n c, e = .create n c none := by
  have hs₁ := init_unitsByName h
  have hdel : s₁.toDelete dc = [] := toDelete_eq_nil fun n hn => by
    by_contra hnd
    exact hn ((hs₁ n).1 (AList.lookup_eq_none.2 hnd))
  have hset : ∀ e ∈ ord'.dc.arrange dc.entries, Settled getHash deps s₁ e.1 e.2 := fun e he =>
    ((hs₁ e.1).2 e.2 ((GoMap.mem_arrange ord'.dc dc e.1 e.2).1 he)).settled getHash deps
  obtain ⟨new, hp, hc⟩ := createPass_settled getHash deps {} hset
  refine ⟨new, ?_, hc⟩
  rw [init, hdel, List.Perm.eq_nil (ord'.toDelete.perm [])]
  simp only [removeAll, Option.some_bind, hp, Option.map_some']
  rfl

/-- Reloading the sample snapshot, in the reverse order, changes nothing. -/
theorem sample_init_idempotent :
    Service.empty.init sampleHash .sample .listed sampleSnapshot = some sampleState ∧
      ∃ new, sampleState.init sampleHash .sample ⟨.reversed, .reversed⟩ sampleSnapshot =
          some { sampleState with events := sampleState.events ++ new } ∧
        ∀ e ∈ new, ∃ n c, e = .create n c none :=
  ⟨init_sample, init_idempotent init_sample⟩

end Jitsu.Destinations
