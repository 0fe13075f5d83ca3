import Jitsu.Destinations.Projection

/-! # Invariants of every run

Two properties of the shared loggers and the read side that hold over whole runs of `init`:

* **`UsageWithin s D`** — every registered `LoggerUsage` counts at least one unit and at most
  `D` of its token. It holds in every reachable state with `D = loggerDemand`, **whatever the
  snapshots**: staged batch destinations and stream destinations named like a token included.
  `remove` lowers a count for a staged batch unit that `init` never counted, so the count can
  fall *below* the demand (the shared logger is then closed too early); but it never rises above
  it, and a count that would reach zero is dropped with its logger. So the Go `usage -= 1` never
  makes a usage negative, and no `LoggerUsage` stays registered once the last non-staged batch
  unit of its token is gone. The steps are the same as for the view of `Projection`: one token of
  `remove`, one token of `init`, the two loops, the create step, `init`.
* **`reachable_readSideOpen`** — on admissible snapshots, nothing the read side returns is
  closed: the projection of `Projection` puts only handles of live units and `LoggerUsage`s in
  the read maps, and the ownership law of `Ownership` says those are open. -/

namespace Jitsu.Destinations

namespace Service

/-! ## The bounds on the reference counts -/

/-- **The reference counts are within bounds** for a demand `D`: every registered `LoggerUsage`
has a usage of at least one and at most `D` of its token. -/
def UsageWithin (s : Service) (D : String → Nat) : Prop :=
  ∀ t lu, s.loggersUsageByTokenID.lookup t = some lu → 1 ≤ lu.usage ∧ lu.usage ≤ D t

theorem UsageWithin.mono {s : Service} {D E : String → Nat} (hw : s.UsageWithin D)
    (hDE : ∀ t, D t ≤ E t) : s.UsageWithin E := fun t lu hl =>
  ⟨(hw t lu hl).1, (hw t lu hl).2.trans (by exact_mod_cast hDE t)⟩

theorem UsageWithin.of_loggers {s s' : Service} {D : String → Nat} (hw : s.UsageWithin D)
    (hl : s'.loggersUsageByTokenID = s.loggersUsageByTokenID) : s'.UsageWithin D :=
  fun t lu h => hw t lu (hl ▸ h)

/-- A registered count makes the demand of its token positive. -/
theorem UsageWithin.demand_pos {s : Service} {D : String → Nat} (hw : s.UsageWithin D)
    {t : String} (ht : (s.loggersUsageByTokenID.lookup t).isSome) : 0 < D t := by
  obtain ⟨lu, hl⟩ := Option.isSome_iff_exists.1 ht
  have := hw t lu hl
  omega

/-- **One iteration of `remove`'s token loop keeps the bounds**, with the demand at the token
lowered by one when the unit has no queue. The count is dropped, not written back, when it
reaches zero. -/
theorem UsageWithin.removeToken {s s' : Service} {name t : String} {unit : Unit}
    {E : String → Nat}
    (hw : s.UsageWithin fun x => E x + if x = t ∧ unit.eventQueue = none then 1 else 0)
    (h : s.removeToken name unit t = some s') : s'.UsageWithin E := by
  rcases removeToken_cases h with ⟨hq, rfl⟩ | ⟨lu, hq, hl, ⟨-, rfl⟩ | ⟨h0, rfl⟩⟩
  · refine (hw.mono fun x => ?_).of_loggers rfl
    simp [Option.isSome_iff_ne_none.1 hq]
  · intro x lu' hx
    have hxt : x ≠ t := by rintro rfl; simp [AList.lookup_erase] at hx
    rw [unregister_loggers, AList.lookup_erase_ne hxt] at hx
    simpa [hxt] using hw x lu' hx
  · intro x lu' hx
    rw [unregister_loggers] at hx
    by_cases hxt : x = t
    · subst hxt
      rw [AList.lookup_insert] at hx
      cases hx
      have := hw x lu hl
      simp only [hq, and_self, if_true, Nat.cast_add, Nat.cast_one] at this
      exact ⟨show 1 ≤ lu.usage - 1 by omega, show lu.usage - 1 ≤ E x by omega⟩
    · rw [AList.lookup_insert_ne hxt] at hx
      simpa [hxt] using hw x lu' hx

theorem UsageWithin.removeTokens {name : String} {unit : Unit} {E : String → Nat}
    {l : List String} {s s' : Service}
    (hw : s.UsageWithin fun x => E x + if unit.eventQueue = none then l.count x else 0)
    (h : s.removeTokens name unit l = some s') : s'.UsageWithin E := by
  induction l generalizing s with
  | nil => cases h; simpa using hw
  | cons t l ih =>
    obtain ⟨s₁, h₁, h⟩ := Option.bind_eq_some.1 h
    refine ih (UsageWithin.removeToken (hw.mono fun x => ?_) h₁) h
    by_cases hq : unit.eventQueue = none <;> by_cases hx : x = t <;>
      simp [hq, hx, List.count_cons]
    omega

/-- **`remove` keeps the bounds between operations.** The demand it takes away is the unit's
share; a staged batch unit has none, yet its removal still lowers the counts. -/
theorem UsageWithin.remove {s s' : Service} {name : String} {unit : Unit}
    (hw : s.UsageWithin s.loggerDemand) (hu : s.unitsByName.lookup name = some unit)
    (h : s.remove name unit = some s') : s'.UsageWithin s'.loggerDemand := by
  obtain ⟨s₁, h₁, rfl⟩ := Option.map_eq_some'.1 h
  have hw₁ : s₁.UsageWithin fun x =>
      GoMap.sumBy (s₁.unitsByName.erase name) fun _ u => u.demand x := by
    refine (hw.mono fun x => ?_).removeTokens h₁
    rw [loggerDemand_split hu, (removeTokens_frame h₁).1, Unit.demand]
    split_ifs <;> simp_all
  exact hw₁.of_loggers rfl

/-- The deletion pass keeps the bounds when it removes registered units, each once. -/
theorem UsageWithin.removeAll {s s' : Service} {l : List (GoMap.Entry Unit)}
    (hw : s.UsageWithin s.loggerDemand) (hl : ∀ e ∈ l, s.unitsByName.lookup e.1 = some e.2)
    (hnd : l.NodupKeys) (h : s.removeAll l = some s') : s'.UsageWithin s'.loggerDemand := by
  induction l generalizing s with
  | nil => cases h; exact hw
  | cons e l ih =>
    obtain ⟨s₁, h₁, h⟩ := Option.bind_eq_some.1 h
    rw [List.nodupKeys_cons] at hnd
    refine ih (hw.remove (hl e (.head _)) h₁) (fun e' he' => ?_) hnd.2 h
    have hne : e'.1 ≠ e.1 := fun hk => hnd.1 (hk ▸ List.mem_keys_of_mem he')
    rw [(remove_frame h₁).1, AList.lookup_erase_ne hne]
    exact hl e' (.tail _ he')

/-- The "get or create" step finds a count within the bounds, or a fresh one at zero. -/
theorem UsageWithin.loggerFor {s : Service} {D : String → Nat} (hw : s.UsageWithin D)
    (t : String) : 0 ≤ (s.loggerFor t).1.usage ∧ (s.loggerFor t).1.usage ≤ D t := by
  unfold Service.loggerFor
  split
  · rename_i lu hl
    have := hw t lu hl
    exact ⟨show 0 ≤ lu.usage by omega, this.2⟩
  · simp

/-- **One iteration of `init`'s token loop keeps the bounds**, with the demand at the token
raised by one for a non-staged batch destination: a fresh logger starts at zero and is counted
at once. -/
theorem UsageWithin.addToken {s : Service} {D : String → Nat} (hw : s.UsageWithin D)
    (name : String) (cfg : DestinationConfig) (q : Option Handle) (st : Handle) (acc : NewMaps)
    (t : String) :
    (s.addToken name cfg q st acc t).1.UsageWithin fun x =>
      D x + if x = t ∧ cfg.staged = false ∧ cfg.mode ≠ streamMode then 1 else 0 := by
  unfold Service.addToken
  split_ifs with hs hm
  · exact hw.mono fun x => by simp [hs]
  · exact hw.mono fun x => by simp [hm]
  · have hne : ∀ x, x ≠ t → (s.loggerFor t).2.loggersUsageByTokenID.lookup x =
        s.loggersUsageByTokenID.lookup x := fun x hx => lookup_loggerFor_ne s hx
    have hu := hw.loggerFor t
    revert hne hu
    rcases s.loggerFor t with ⟨lu, s₁⟩
    intro hne hu x lu' hx
    by_cases hxt : x = t
    · subst hxt
      rw [AList.lookup_insert] at hx
      cases hx
      have hc : x = x ∧ cfg.staged = false ∧ cfg.mode ≠ streamMode := ⟨rfl, by simpa using hs, hm⟩
      dsimp only at hu ⊢
      rw [if_pos hc, Nat.cast_add, Nat.cast_one]
      exact ⟨by omega, by omega⟩
    · rw [AList.lookup_insert_ne hxt, hne x hxt] at hx
      simpa [hxt] using hw x lu' hx

theorem UsageWithin.addTokens {name : String} {cfg : DestinationConfig} {q : Option Handle}
    {st : Handle} (l : List String) {s : Service} {acc : NewMaps} {D : String → Nat}
    (hw : s.UsageWithin D) :
    (addTokens name cfg q st s acc l).1.UsageWithin fun x =>
      D x + if cfg.staged = false ∧ cfg.mode ≠ streamMode then l.count x else 0 := by
  induction l generalizing s acc D with
  | nil => simpa using hw
  | cons t l ih =>
    refine (ih (hw.addToken name cfg q st acc t)).mono fun x => ?_
    by_cases hc : cfg.staged = false ∧ cfg.mode ≠ streamMode
    · by_cases hx : x = t
      · subst hx
        rw [if_pos ⟨rfl, hc⟩, if_pos hc, if_pos hc, List.count_cons_self]
        omega
      · rw [if_neg fun h => hx h.1, if_pos hc, if_pos hc, List.count_cons_of_ne hx]
        omega
    · rw [if_neg fun h => hc h.2, if_neg hc, if_neg hc]

/-- **The create step keeps the bounds between operations**, for a name no live unit holds: the
demand the new unit brings is exactly what its token loop counts. -/
theorem UsageWithin.createUnit {s : Service} {name : String} (hw : s.UsageWithin s.loggerDemand)
    (hu : s.unitsByName.lookup name = none) (deps : Collaborators) (cfg : DestinationConfig)
    (hash : UInt64) (acc : NewMaps) :
    (s.createUnit deps name cfg hash acc).1.UsageWithin
      (s.createUnit deps name cfg hash acc).1.loggerDemand := by
  rcases createUnit_cases s deps name cfg hash acc with ⟨-, h⟩ | ⟨-, -, h⟩ | ⟨-, -, h⟩ <;> rw [h]
  · exact hw
  · exact hw
  · rw [loggerDemand_fun, addTokens_unitsByName]
    refine ((hw.of_loggers rfl).addTokens (s := s.registered name cfg hash) _).mono fun x => ?_
    rw [registered, demand_insert hu, ← loggerDemand_eq]
    simp only [Unit.demand, newUnit, createdQueue]
    split_ifs <;> simp_all

/-- One iteration of `init`'s create loop keeps the bounds. -/
theorem UsageWithin.createOne {s : Service} {p : Service × NewMaps}
    (hw : s.UsageWithin s.loggerDemand) (getHash : String → DestinationConfig → UInt64)
    (deps : Collaborators) (acc : NewMaps) (name : String) (d : DestinationConfig)
    (h : s.createOne getHash deps acc name d = some p) : p.1.UsageWithin p.1.loggerDemand := by
  rcases createOne_cases getHash h with ⟨_, -, -, rfl⟩ | ⟨_, s₁, hu, -, h₁, rfl⟩ | ⟨hu, rfl⟩
  · exact hw
  · refine (hw.remove hu h₁).createUnit ?_ _ _ _ _
    rw [(remove_frame h₁).1, AList.lookup_erase]
  · exact hw.createUnit hu _ _ _ _

theorem UsageWithin.createPass {s : Service} {p : Service × NewMaps}
    (hw : s.UsageWithin s.loggerDemand) (getHash : String → DestinationConfig → UInt64)
    (deps : Collaborators) (acc : NewMaps) (l : List (GoMap.Entry DestinationConfig))
    (h : createPass getHash deps s acc l = some p) : p.1.UsageWithin p.1.loggerDemand := by
  induction l generalizing s acc with
  | nil => cases h; exact hw
  | cons e l ih =>
    obtain ⟨p₁, h₁, h⟩ := Option.bind_eq_some.1 h
    exact ih (hw.createOne getHash deps acc e.1 e.2 h₁) _ h

/-- **`init` keeps the bounds**, on every snapshot. -/
theorem UsageWithin.init {s s' : Service} (hw : s.UsageWithin s.loggerDemand)
    (getHash : String → DestinationConfig → UInt64) (deps : Collaborators) (ord : InitOrders)
    (dc : GoMap DestinationConfig) (h : s.init getHash deps ord dc = some s') :
    s'.UsageWithin s'.loggerDemand := by
  obtain ⟨s₁, h₁, h⟩ := Option.bind_eq_some.1 h
  obtain ⟨p, h₂, rfl⟩ := Option.map_eq_some'.1 h
  obtain ⟨hreg, hnd⟩ := toDelete_registered s dc ord.toDelete
  exact (hw.removeAll hreg hnd h₁).createPass getHash deps {} _ h₂

/-! ## Owned handles are open -/

/-- A handle some live slot holds has never been closed. -/
theorem Accounted.closeCount_eq_zero {s : Service} (ha : s.Accounted) {x : Handle}
    (hx : 0 < s.owners x) : s.closeCount x = 0 := by
  have := ha.balance x
  have := ha.once x
  omega

theorem owners_pos_of_unit {s : Service} {n : String} {u : Unit} {x : Handle}
    (hu : s.unitsByName.lookup n = some u) (hx : x ∈ u.handles) : 0 < s.owners x := by
  have h := GoMap.at?_le_sumBy s.unitsByName (fun _ u => u.handles.count x) n
  rw [unit_at? hu] at h
  have := List.count_pos_iff.2 hx
  unfold owners
  omega

theorem owners_pos_of_logger {s : Service} {t : String} {lu : LoggerUsage}
    (hl : s.loggersUsageByTokenID.lookup t = some lu) : 0 < s.owners lu.logger := by
  have h := GoMap.at?_le_sumBy s.loggersUsageByTokenID
    (fun _ lu' => if lu'.logger = lu.logger then 1 else 0) t
  rw [logger_at? hl] at h
  unfold owners
  simp only [if_true] at h
  omega

/-- A value of the inner map of a token sits under some key of it. -/
theorem Tokenized.exists_get_of_mem {α : Type} {ts : Tokenized α} {t : String} {x : α}
    (hx : x ∈ ((ts.lookup t).getD ∅).entries.map (·.2)) : ∃ k, ts.get t k = some x := by
  obtain ⟨e, he, rfl⟩ := List.mem_map.1 hx
  cases ht : ts.lookup t with
  | none => simp [ht] at he
  | some inner =>
    rw [ht, Option.getD_some] at he
    exact ⟨e.1, by simp only [Tokenized.get, ht, Option.some_bind]; exact AList.mem_lookup_iff.2 he⟩

/-- **The projection puts only owned handles on the read side**, so, with the ownership law,
only open ones. -/
theorem Accounted.readSideOpen {s : Service} (ha : s.Accounted) (hp : s.Projected) :
    s.ReadSideOpen := by
  obtain ⟨-, hq, hl, hst, hk, -⟩ := hp
  refine ⟨fun t x hx => ?_, fun t x hx => ?_, fun n x hx => ?_,
    fun t lu hlu => ha.closeCount_eq_zero (owners_pos_of_logger hlu)⟩
  · obtain ⟨k, hk'⟩ := Tokenized.exists_get_of_mem hx
    rcases hk t k (by simp [hk']) with rfl | ⟨u, q, hu, hs, ht, hqu⟩
    · obtain ⟨lu, hlu, hc⟩ := (hl k).2 _ hk'
      cases hc
      exact ha.closeCount_eq_zero (owners_pos_of_logger hlu)
    · rw [hq t k u q hu hs ht hqu] at hk'
      cases hk'
      exact ha.closeCount_eq_zero (owners_pos_of_unit hu (by simp [Unit.handles, hqu]))
  · obtain ⟨n, hn⟩ := Tokenized.exists_get_of_mem hx
    obtain ⟨u, hu, -⟩ := ((hst t n).1.1 (by simp [hn]))
    cases (hst t n).2 u x hu hn
    exact ha.closeCount_eq_zero (owners_pos_of_unit hu (List.mem_cons_self _ _))
  · obtain ⟨u, hu, rfl⟩ := Option.map_eq_some'.1 hx
    exact ha.closeCount_eq_zero (owners_pos_of_unit hu (List.mem_cons_self _ _))

end Service

open Service

variable {getHash : String → DestinationConfig → UInt64}
  {ok : Service → Collaborators → GoMap DestinationConfig → Prop}

/-- **In every reachable state, whatever the snapshots, the shared loggers are counted within
bounds**: every registered usage is at least one, so `remove`'s decrement never drives one
negative, and at most the token's demand, so a `LoggerUsage` is registered only while a live
non-staged batch unit serves its token: no shared logger outlives the units that use it. -/
theorem reachable_usage_bounds {s : Service} (hs : Reachable getHash ok s) :
    s.UsageWithin s.loggerDemand ∧ ∀ t, (s.loggersUsageByTokenID.lookup t).isSome →
      ∃ n u, s.unitsByName.lookup n = some u ∧ u.staged = false ∧ t ∈ u.tokenIDs ∧
        u.eventQueue = none := by
  have hw : s.UsageWithin s.loggerDemand := by
    induction hs with
    | empty => intro t lu h; cases h
    | init deps ord dc _ _ h ih => exact ih.init getHash deps ord dc h
  exact ⟨hw, fun t ht => (loggerDemand_pos_iff s t).1 (hw.demand_pos ht)⟩

theorem sample_usage_bounds :
    Reachable sampleHash (fun _ _ _ => True) sampleState ∧
      sampleState.UsageWithin sampleState.loggerDemand :=
  ⟨reachable_sampleState, (reachable_usage_bounds reachable_sampleState).1⟩

/-- **No closed handle is reachable from the read side** in any state of a run on admissible
snapshots: the consumers `GetConsumers` returns, the storages `GetStorages` and `GetStorageByID`
return, and the logger of every `LoggerUsage` are open. -/
theorem reachable_readSideOpen {s : Service} (hs : Reachable getHash (fun _ => Admissible) s) :
    s.ReadSideOpen :=
  hs.accounted.readSideOpen hs.admissible_midInv.2.projected

theorem sample_readSideOpen :
    Reachable sampleHash (fun _ => Admissible) sampleState ∧ sampleState.ReadSideOpen :=
  ⟨.init _ _ _ .empty admissible_sampleSnapshot init_sample,
    reachable_readSideOpen (.init _ _ _ .empty admissible_sampleSnapshot init_sample)⟩

end Jitsu.Destinations
