import Jitsu.Destinations.Ownership
import Jitsu.Destinations.Reconcile

/-! # The calls of one reconciliation, name by name

`Reconcile` says what `init(dc)` leaves in the unit registry under each name. This file adds the
calls it makes for each name, and their order. Its tool is `CallsFrom P s s'`: the call log of
`s'` extends that of `s`, and every `Create` among the new calls is for a name satisfying `P`.

* **The deletion pass and `remove`** call only `Close()`; the deletion pass closes the handles of
  every unit it removes.
* **One iteration of the create loop** calls `Create` only for its own name, and a unit the create
  step registers holds the storage and queue of the `Create` call it recorded.
* **`init_at`** cuts a run of `init` at one name of the snapshot: the calls before and after the
  iteration for that name make no `Create` for it, and leave its unit alone.
* **`init_reconciles_each_name`** is the postcondition of `init`: with the ownership invariant
  (`Accounted`), a handle owned before the run and closed during it is closed exactly once, and a
  handle still owned after it is not closed at all. -/

namespace Jitsu.Destinations

namespace Service

/-- **`s'` extends the call log of `s`**, and every `Create` among the new calls is for a name
satisfying `P`. -/
def CallsFrom (P : String → Prop) (s s' : Service) : Prop :=
  ∃ new, s'.events = s.events ++ new ∧ ∀ n c r, Event.create n c r ∈ new → P n

variable {P Q : String → Prop} {s s₁ s₂ s' : Service}

/-! ## Composing call logs -/

theorem CallsFrom.refl (P : String → Prop) (s : Service) : CallsFrom P s s :=
  ⟨[], by simp, by simp⟩

theorem CallsFrom.trans (h₁ : CallsFrom P s s₁) (h₂ : CallsFrom P s₁ s₂) : CallsFrom P s s₂ := by
  obtain ⟨new₁, he₁, hc₁⟩ := h₁
  obtain ⟨new₂, he₂, hc₂⟩ := h₂
  refine ⟨new₁ ++ new₂, by rw [he₂, he₁, List.append_assoc], fun n c r hm => ?_⟩
  rcases List.mem_append.1 hm with hm | hm
  exacts [hc₁ n c r hm, hc₂ n c r hm]

theorem CallsFrom.mono (h : CallsFrom P s s₁) (hPQ : ∀ n, P n → Q n) : CallsFrom Q s s₁ :=
  let ⟨new, he, hc⟩ := h
  ⟨new, he, fun n c r hm => hPQ n (hc n c r hm)⟩

/-- Calls that are all `Close()` are calls for any names. -/
theorem CallsFrom.of_closes (new : List Event) (he : s₁.events = s.events ++ new)
    (hc : ∀ e ∈ new, ∃ x, e = .close x) : CallsFrom P s s₁ :=
  ⟨new, he, fun _ _ _ hm => by obtain ⟨x, hx⟩ := hc _ hm; cases hx⟩

/-- A call made before is still in the log. -/
theorem CallsFrom.mem (h : CallsFrom P s s₁) {e : Event} (he : e ∈ s.events) : e ∈ s₁.events := by
  obtain ⟨new, hnew, -⟩ := h
  rw [hnew]
  exact List.mem_append_left _ he

/-- Every `Create` among the new calls, however they are written down, is for a name in `P`. -/
theorem CallsFrom.create_mem (h : CallsFrom P s s₁) {new : List Event}
    (he : s₁.events = s.events ++ new) {n : String} {c : DestinationConfig}
    {r : Option (Handle × Option Handle)} (hm : Event.create n c r ∈ new) : P n := by
  obtain ⟨new', he', hc⟩ := h
  rw [he', List.append_cancel_left_eq] at he
  subst he
  exact hc n c r hm

/-- A call made between two states of a run is one of the run's new calls. -/
theorem mem_new_of_between (h₁ : CallsFrom P s s₁) (h₂ : CallsFrom Q s₂ s') {mid new : List Event}
    (hmid : s₂.events = s₁.events ++ mid) (he : s'.events = s.events ++ new) {e : Event}
    (hm : e ∈ mid) : e ∈ new := by
  obtain ⟨a, ha, -⟩ := h₁
  obtain ⟨b, hb, -⟩ := h₂
  rw [hb, hmid, ha, List.append_assoc, List.append_assoc, List.append_cancel_left_eq] at he
  rw [← he]
  simp [hm]

/-! ## Removal calls only `Close()` -/

theorem remove_callsFrom {name : String} {unit : Unit} (h : s.remove name unit = some s₁) :
    CallsFrom P s s₁ := by
  obtain ⟨-, -, new, he, hc⟩ := remove_frame h
  refine .of_closes (new ++ unit.handles.map .close) (by rw [he, List.append_assoc]) fun e he => ?_
  rcases List.mem_append.1 he with he | he
  · exact hc e he
  · obtain ⟨x, -, rfl⟩ := List.mem_map.1 he
    exact ⟨x, rfl⟩

theorem removeAll_callsFrom {l : List (GoMap.Entry Unit)} (h : s.removeAll l = some s₁) :
    CallsFrom P s s₁ :=
  let ⟨_, _, new, he, hc⟩ := removeAll_frame h
  .of_closes new he hc

/-- **The deletion pass closes the handles of every unit it removes.** -/
theorem removeAll_closes {l : List (GoMap.Entry Unit)} (h : s.removeAll l = some s₁) :
    ∀ e ∈ l, ∀ x ∈ e.2.handles, Event.close x ∈ s₁.events := by
  induction l generalizing s with
  | nil => intro e he; cases he
  | cons e l ih =>
    obtain ⟨s₂, h₂, hrest⟩ := Option.bind_eq_some.1 h
    intro e' he' x hx
    rcases List.mem_cons.1 he' with rfl | he'
    · obtain ⟨-, -, new, he, -⟩ := remove_frame h₂
      exact (removeAll_callsFrom (P := fun _ => True) hrest).mem (by rw [he]; simp [hx])
    · exact ih hrest e' he' x hx

/-! ## Creation calls `Create` for its own name -/

theorem loggerFor_callsFrom (s : Service) (t : String) : CallsFrom P s (s.loggerFor t).2 := by
  unfold loggerFor
  split
  · exact .refl P s
  · exact ⟨[.createLogger t ⟨s.nextHandle⟩], rfl, by simp⟩

theorem addToken_callsFrom (s : Service) (name : String) (cfg : DestinationConfig)
    (q : Option Handle) (st : Handle) (acc : NewMaps) (t : String) :
    CallsFrom P s (s.addToken name cfg q st acc t).1 := by
  unfold addToken
  split_ifs
  · exact .refl P s
  · exact .refl P s
  · have := loggerFor_callsFrom (P := P) s t
    revert this
    rcases s.loggerFor t with ⟨lu, s₁⟩
    exact id

theorem addTokens_callsFrom (name : String) (cfg : DestinationConfig) (q : Option Handle)
    (st : Handle) (s : Service) (acc : NewMaps) (l : List String) :
    CallsFrom P s (addTokens name cfg q st s acc l).1 := by
  induction l generalizing s acc with
  | nil => exact .refl P s
  | cons t l ih => exact (addToken_callsFrom s name cfg q st acc t).trans (ih _ _)

/-- The create step calls `Create` for its own name only. -/
theorem createUnit_callsFrom (s : Service) (deps : Collaborators) (name : String)
    (cfg : DestinationConfig) (hash : UInt64) (acc : NewMaps) :
    CallsFrom (· = name) s (s.createUnit deps name cfg hash acc).1 := by
  rcases createUnit_cases s deps name cfg hash acc with ⟨-, h⟩ | ⟨-, -, h⟩ | ⟨-, -, h⟩ <;> rw [h]
  · exact .refl _ s
  · exact ⟨[.create name cfg none], rfl,
      fun _ _ _ hm => (Event.create.inj (List.mem_singleton.1 hm)).1⟩
  · exact CallsFrom.trans ⟨[.create name cfg (some (⟨s.nextHandle⟩, s.createdQueue cfg))], rfl,
      fun _ _ _ hm => (Event.create.inj (List.mem_singleton.1 hm)).1⟩
      (addTokens_callsFrom _ _ _ _ _ _ _)

/-- **A unit the create step registers holds what its `Create` call returned.** -/
theorem createUnit_registers (s : Service) (deps : Collaborators) (name : String)
    (cfg : DestinationConfig) (hash : UInt64) (acc : NewMaps) {u : Unit}
    (hu : s.unitsByName.lookup name = none)
    (h : (s.createUnit deps name cfg hash acc).1.unitsByName.lookup name = some u) :
    ∃ new, (s.createUnit deps name cfg hash acc).1.events = s.events ++ new ∧
      Event.create name cfg (some (u.storage, u.eventQueue)) ∈ new := by
  rcases createUnit_cases s deps name cfg hash acc with ⟨-, he⟩ | ⟨-, -, he⟩ | ⟨-, -, he⟩ <;>
    rw [he] at h ⊢
  · rw [hu] at h; cases h
  · rw [hu] at h; cases h
  · rw [addTokens_unitsByName] at h
    simp only [registered, AList.lookup_insert, Option.some.injEq] at h
    subst h
    obtain ⟨new, hnew, -⟩ := addTokens_callsFrom (P := fun _ => True) name cfg (s.createdQueue cfg)
      ⟨s.nextHandle⟩ (s.registered name cfg hash) acc cfg.onlyTokens
    exact ⟨_ :: new, by rw [hnew]; simp [registered, newUnit], .head _⟩

variable (getHash : String → DestinationConfig → UInt64) (deps : Collaborators)

theorem createOne_callsFrom {acc : NewMaps} {n : String} {d : DestinationConfig}
    {p : Service × NewMaps} (h : s.createOne getHash deps acc n d = some p) :
    CallsFrom (· = n) s p.1 := by
  rcases createOne_cases getHash h with ⟨_, -, -, rfl⟩ | ⟨_, s₁, -, -, h₁, rfl⟩ | ⟨-, rfl⟩
  · exact .refl _ s
  · exact (remove_callsFrom h₁).trans (createUnit_callsFrom _ _ _ _ _ _)
  · exact createUnit_callsFrom _ _ _ _ _ _

/-- The create loop calls `Create` only for the names it visits. -/
theorem createPass_callsFrom {acc : NewMaps} {l : List (GoMap.Entry DestinationConfig)}
    {p : Service × NewMaps} (h : createPass getHash deps s acc l = some p) :
    CallsFrom (· ∈ l.keys) s p.1 := by
  induction l generalizing s acc with
  | nil => cases h; exact .refl _ s
  | cons e l ih =>
    obtain ⟨p₁, h₁, h⟩ := Option.bind_eq_some.1 h
    refine ((createOne_callsFrom getHash deps h₁).mono fun n hn => ?_).trans
      ((ih h).mono fun n hn => ?_) <;> simp [hn]

/-- **An iteration of the create loop that does not keep the unit of its name** first removes
that unit, closing its handles, and then runs the create step on a registry without the name. -/
theorem createOne_replaces {acc : NewMaps} {n : String} {d : DestinationConfig}
    {p : Service × NewMaps} (h : s.createOne getHash deps acc n d = some p)
    (hch : ∀ u, s.unitsByName.lookup n = some u → u.hash ≠ getHash n (deps.resolve d)) :
    ∃ s₂, CallsFrom P s s₂ ∧ s₂.unitsByName.lookup n = none ∧
      (∀ u, s.unitsByName.lookup n = some u → ∀ x ∈ u.handles, Event.close x ∈ s₂.events) ∧
      p = s₂.createUnit deps n (deps.resolve d) (getHash n (deps.resolve d)) acc := by
  rcases createOne_cases getHash h with ⟨u, hu, hh, -⟩ | ⟨u, s₂, hu, -, h₂, rfl⟩ | ⟨hu, rfl⟩
  · exact absurd hh (hch u hu)
  · obtain ⟨hreg, -, new, he, -⟩ := remove_frame h₂
    refine ⟨s₂, remove_callsFrom h₂, by rw [hreg, AList.lookup_erase], fun u' hu' x hx => ?_, rfl⟩
    rw [hu] at hu'
    cases hu'
    rw [he]
    simp [hx]
  · exact ⟨s, .refl P s, hu, (fun u hu' => by rw [hu] at hu'; cases hu'), rfl⟩

theorem createPass_append (s : Service) (acc : NewMaps)
    (l₁ l₂ : List (GoMap.Entry DestinationConfig)) :
    createPass getHash deps s acc (l₁ ++ l₂) =
      (createPass getHash deps s acc l₁).bind fun p => createPass getHash deps p.1 p.2 l₂ := by
  induction l₁ generalizing s acc with
  | nil => rfl
  | cons e l₁ ih => rw [List.cons_append]; simp only [createPass, ih, Option.bind_assoc]

end Service

open Service

variable {getHash : String → DestinationConfig → UInt64} {s s' : Service} {deps : Collaborators}
  {ord : InitOrders} {dc : GoMap DestinationConfig}

/-! ## `init`, cut at one name -/

/-- `init` calls `Create` only for the names of the snapshot. -/
theorem init_callsFrom (h : s.init getHash deps ord dc = some s') : CallsFrom (· ∈ dc) s s' := by
  obtain ⟨s₀, h₀, h⟩ := Option.bind_eq_some.1 h
  obtain ⟨p, hp, rfl⟩ := Option.map_eq_some'.1 h
  exact (removeAll_callsFrom h₀).trans ((createPass_callsFrom getHash deps hp).mono fun n hn =>
    (GoMap.mem_keys_arrange ord.dc dc n).1 hn)

/-- **A run of `init` cut at the name `n` of the snapshot.** The iteration of the create loop for
`n` starts from a state that still holds the unit `n` had before `init`; the calls before and
after it make no `Create` for `n`, and the calls after it leave `n`'s unit alone. -/
theorem init_at (h : s.init getHash deps ord dc = some s') {n : String} {d : DestinationConfig}
    (hd : dc.lookup n = some d) :
    ∃ s₁ acc₁ p₂, CallsFrom (· ≠ n) s s₁ ∧ s₁.unitsByName.lookup n = s.unitsByName.lookup n ∧
      s₁.createOne getHash deps acc₁ n d = some p₂ ∧ CallsFrom (· ≠ n) p₂.1 s' ∧
      s'.unitsByName.lookup n = p₂.1.unitsByName.lookup n := by
  obtain ⟨s₀, h₀, h⟩ := Option.bind_eq_some.1 h
  obtain ⟨p, hp, rfl⟩ := Option.map_eq_some'.1 h
  obtain ⟨l₁, l₂, hl⟩ := List.append_of_mem ((GoMap.mem_arrange ord.dc dc n d).2 hd)
  have hk := GoMap.nodupKeys_arrange ord.dc dc
  rw [hl, List.NodupKeys, List.keys, List.map_append, List.map_cons, List.nodup_append,
    List.nodup_cons] at hk
  have hn₁ : n ∉ l₁.keys := fun hm => hk.2.2 hm (.head _)
  rw [hl, createPass_append] at hp
  obtain ⟨p₁, hp₁, hp⟩ := Option.bind_eq_some.1 hp
  obtain ⟨p₂, hp₂, hp₃⟩ := Option.bind_eq_some.1 hp
  refine ⟨p₁.1, p₁.2, p₂, ?_, ?_, hp₂, ?_, ?_⟩
  · exact (removeAll_callsFrom h₀).trans ((createPass_callsFrom getHash deps hp₁).mono
      fun m hm hmn => hn₁ (hmn ▸ hm))
  · rw [createPass_unitsByName_not_mem getHash deps hp₁ hn₁, lookup_removeAll_toDelete h₀,
      if_pos (AList.lookup_isSome.1 (by rw [hd]; rfl))]
  · exact (createPass_callsFrom getHash deps hp₃).mono fun m hm hmn => hk.2.1.1 (hmn ▸ hm)
  · exact createPass_unitsByName_not_mem getHash deps hp₃ hk.2.1.1

/-! ## Counting `Close()` calls -/

/-- A handle a live unit owns has not been closed. -/
theorem Service.Accounted.closeCount_of_owned (ha : s.Accounted) {n : String} {u : Unit}
    (hu : s.unitsByName.lookup n = some u) {x : Handle} (hx : x ∈ u.handles) :
    s.closeCount x = 0 := by
  have hat := GoMap.at?_le_sumBy s.unitsByName (fun _ u => u.handles.count x) n
  rw [unit_at? hu] at hat
  have hpos := List.count_pos_iff.2 hx
  have hown : 1 ≤ s.owners x := by unfold owners; omega
  have := ha.balance x
  have := ha.once x
  omega

/-- **A handle closed between two accounted states, and open at the first, is closed there
once**: by the first part of the new calls, and never again. -/
theorem close_once_between (ha' : s'.Accounted) {pre post : List Event}
    (he : s'.events = s.events ++ pre ++ post) {x : Handle} (hx : s.closeCount x = 0)
    (hm : Event.close x ∈ pre) : pre.count (.close x) = 1 ∧ post.count (.close x) = 0 := by
  have hpos := List.count_pos_iff.2 hm
  have hle := ha'.balance x
  have := ha'.once x
  simp only [closeCount, he, List.count_append] at hle hx
  omega

variable {ok : Service → Collaborators → GoMap DestinationConfig → Prop} {new : List Event}

/-! ## The postcondition of `init`, name by name -/

/-- A live unit the snapshot lacks is closed exactly once and gone. -/
theorem init_closes_deleted (ha : s.Accounted) (h : s.init getHash deps ord dc = some s')
    (he : s'.events = s.events ++ new) {n : String} {u : Unit}
    (hu : s.unitsByName.lookup n = some u) (hn : n ∉ dc) :
    s'.unitsByName.lookup n = none ∧ ∀ x ∈ u.handles, new.count (.close x) = 1 := by
  refine ⟨(init_unitsByName h n).1 (AList.lookup_eq_none.2 hn), fun x hx => ?_⟩
  obtain ⟨s₀, h₀, hrest⟩ := Option.bind_eq_some.1 h
  obtain ⟨p, hp, rfl⟩ := Option.map_eq_some'.1 hrest
  have hdel : (⟨n, u⟩ : GoMap.Entry Unit) ∈ ord.toDelete.arrange (s.toDelete dc) :=
    (ord.toDelete.perm _).mem_iff.2 (List.mem_filter.2 ⟨AList.mem_lookup_iff.1 hu, by simpa⟩)
  have hmem := (createPass_callsFrom getHash deps hp).mem
    (removeAll_closes h₀ _ hdel x hx)
  have hx₀ := ha.closeCount_of_owned hu hx
  have hnew : Event.close x ∈ new := by
    rw [show (p.1.publish p.2).events = p.1.events from rfl] at he
    rw [he] at hmem
    exact (List.mem_append.1 hmem).resolve_left fun hm => by
      rw [closeCount, List.count_eq_zero] at hx₀; exact hx₀ hm
  exact (close_once_between (ha.init getHash deps ord dc h) (by rw [he, List.append_nil]) hx₀
    hnew).1

/-- A live unit whose hash is unchanged stays, is not closed, and no `Create` is made for it. -/
theorem init_keeps_unchanged (ha' : s'.Accounted) (h : s.init getHash deps ord dc = some s')
    (he : s'.events = s.events ++ new) {n : String} {u : Unit} {d : DestinationConfig}
    (hu : s.unitsByName.lookup n = some u) (hd : dc.lookup n = some d)
    (hh : u.hash = getHash n (deps.resolve d)) :
    s'.unitsByName.lookup n = some u ∧ (∀ x ∈ u.handles, new.count (.close x) = 0) ∧
      ∀ c r, Event.create n c r ∉ new := by
  have hu' : s'.unitsByName.lookup n = some u := by
    rcases (init_unitsByName h n).2 d hd with ⟨u', hb, -, ha⟩ | ⟨hch, -⟩
    · rw [hu] at hb; cases hb; exact ha
    · exact absurd hh (hch u hu)
  refine ⟨hu', fun x hx => ?_, fun c r hm => ?_⟩
  · have := ha'.closeCount_of_owned hu' hx
    rw [closeCount, he, List.count_append] at this
    omega
  · obtain ⟨s₁, acc₁, p₂, hc₁, hl₁, hp₂, hc₂, -⟩ := init_at h hd
    rcases createOne_cases getHash hp₂ with ⟨_, -, -, rfl⟩ | ⟨u', -, hu₁, hne, -⟩ | ⟨hu₁, -⟩
    · exact (hc₁.trans hc₂).create_mem he hm rfl
    · rw [hl₁, hu] at hu₁; cases hu₁; exact hne hh
    · rw [hl₁, hu] at hu₁; cases hu₁

/-- **A changed or new name of the snapshot.** The old unit, if any, is closed exactly once, and
all its closes come before any `Create` for the name; the name then has a unit exactly when its
resolved tokens are non-empty and `Create` succeeds, built from the resolved tokens, the new hash
and what that `Create` returned. -/
theorem init_recreates_changed (ha : s.Accounted) (h : s.init getHash deps ord dc = some s')
    (he : s'.events = s.events ++ new) {n : String} {d : DestinationConfig}
    (hd : dc.lookup n = some d)
    (hch : ∀ u, s.unitsByName.lookup n = some u → u.hash ≠ getHash n (deps.resolve d)) :
    (∀ u, s.unitsByName.lookup n = some u → ∃ pre post, new = pre ++ post ∧
      (∀ x ∈ u.handles, pre.count (.close x) = 1 ∧ post.count (.close x) = 0) ∧
      ∀ c r, Event.create n c r ∉ pre) ∧
    ((s'.unitsByName.lookup n).isSome ↔
      (deps.resolve d).onlyTokens ≠ [] ∧ deps.createOk n (deps.resolve d) = true) ∧
    ∀ u', s'.unitsByName.lookup n = some u' →
      u'.tokenIDs = (deps.resolve d).onlyTokens ∧ u'.hash = getHash n (deps.resolve d) ∧
      Event.create n (deps.resolve d) (some (u'.storage, u'.eventQueue)) ∈ new := by
  obtain ⟨s₁, acc₁, p₂, hc₁, hl₁, hp₂, hc₂, hl₂⟩ := init_at h hd
  obtain ⟨s₂, hc₁₂, hu₂, hclosed, rfl⟩ :=
    createOne_replaces (P := (· ≠ n)) getHash deps hp₂ (by rwa [hl₁])
  have hcu := createUnit_callsFrom s₂ deps n (deps.resolve d) (getHash n (deps.resolve d)) acc₁
  rcases (init_unitsByName h n).2 d hd with ⟨u, hu, hh, -⟩ | ⟨-, hiff, hnew⟩
  · exact absurd hh (hch u hu)
  refine ⟨fun u hu => ?_, by simpa only [ne_eq, List.length_eq_zero] using hiff,
    fun u' hu' => ⟨(hnew u' hu').1, (hnew u' hu').2.1, ?_⟩⟩
  · obtain ⟨pre, hpre, hcpre⟩ := hc₁.trans hc₁₂
    obtain ⟨post, hpost, -⟩ := (hcu.mono fun _ _ => trivial).trans
      (hc₂.mono (Q := fun _ => True) fun _ _ => trivial)
    have hall : s'.events = s.events ++ pre ++ post := by rw [hpost, hpre]
    have hnp : new = pre ++ post := by
      rw [he, List.append_assoc, List.append_cancel_left_eq] at hall; exact hall
    refine ⟨pre, post, hnp, fun x hx => ?_, fun c r hm => hcpre n c r hm rfl⟩
    have hx₀ := ha.closeCount_of_owned hu hx
    refine close_once_between (ha.init getHash deps ord dc h) hall hx₀ ?_
    have hm := hclosed u (hl₁.trans hu) x hx
    rw [hpre] at hm
    exact (List.mem_append.1 hm).resolve_left fun hm => by
      rw [closeCount, List.count_eq_zero] at hx₀; exact hx₀ hm
  · obtain ⟨mid, hmid, hm⟩ := createUnit_registers s₂ deps n (deps.resolve d)
      (getHash n (deps.resolve d)) acc₁ hu₂ (by rwa [← hl₂])
    exact mem_new_of_between (hc₁.trans hc₁₂) hc₂ hmid he hm

/-- **What `init(dc)` does to each name.** From any reachable state, for every snapshot, every
answer of the collaborators and every iteration order, a run of `init` that returns makes calls
`new` such that: (1) a live unit the snapshot lacks is closed exactly once and gone; (2) a live
unit whose hash is unchanged stays the same unit, is not closed, and no `Create` is made for its
name; (3) for any other name of the snapshot, the old unit, if any, is closed exactly once, by
calls that all come before any `Create` for the name, and the name then has a unit exactly when
its resolved tokens are non-empty and `Create` succeeds — with those tokens, the new hash, and the
storage and queue its `Create` returned; (4) no other name has a unit. -/
theorem init_reconciles_each_name (hs : Reachable getHash ok s)
    (h : s.init getHash deps ord dc = some s') :
    ∃ new, s'.events = s.events ++ new ∧
    (∀ n u, s.unitsByName.lookup n = some u → n ∉ dc →
      s'.unitsByName.lookup n = none ∧ ∀ x ∈ u.handles, new.count (.close x) = 1) ∧
    (∀ n u d, s.unitsByName.lookup n = some u → dc.lookup n = some d →
      u.hash = getHash n (deps.resolve d) →
      s'.unitsByName.lookup n = some u ∧ (∀ x ∈ u.handles, new.count (.close x) = 0) ∧
      ∀ c r, Event.create n c r ∉ new) ∧
    (∀ n d, dc.lookup n = some d →
      (∀ u, s.unitsByName.lookup n = some u → u.hash ≠ getHash n (deps.resolve d)) →
      (∀ u, s.unitsByName.lookup n = some u → ∃ pre post, new = pre ++ post ∧
        (∀ x ∈ u.handles, pre.count (.close x) = 1 ∧ post.count (.close x) = 0) ∧
        ∀ c r, Event.create n c r ∉ pre) ∧
      ((s'.unitsByName.lookup n).isSome ↔
        (deps.resolve d).onlyTokens ≠ [] ∧ deps.createOk n (deps.resolve d) = true) ∧
      ∀ u', s'.unitsByName.lookup n = some u' →
        u'.tokenIDs = (deps.resolve d).onlyTokens ∧ u'.hash = getHash n (deps.resolve d) ∧
        Event.create n (deps.resolve d) (some (u'.storage, u'.eventQueue)) ∈ new) ∧
    ∀ n, n ∉ dc → s'.unitsByName.lookup n = none := by
  have ha := hs.accounted
  obtain ⟨new, he, -⟩ := init_callsFrom h
  exact ⟨new, he, fun n u hu hn => init_closes_deleted ha h he hu hn,
    fun n u d hu hd hh => init_keeps_unchanged (ha.init getHash deps ord dc h) h he hu hd hh,
    fun n d hd hch => init_recreates_changed ha h he hd hch,
    fun n hn => (init_unitsByName h n).1 (AList.lookup_eq_none.2 hn)⟩

/-- The postcondition at two reloads of the sample deployment. With `warehouse` changed, `events`
keeps its unit and no `Create` is made for it, while the old `warehouse` storage is closed once,
before the `Create` that builds the new `warehouse`. With `warehouse` dropped, its storage is
closed once and the name has no unit, while `events` keeps its unit. -/
theorem sample_init_reconciles_each_name :
    Reachable sampleHash (fun _ _ _ => True) sampleState ∧
    (∃ s' new, sampleState.init sampleHash .sample .listed changedSnapshot = some s' ∧
      s'.events = sampleState.events ++ new ∧
      s'.unitsByName.lookup "events" = sampleState.unitsByName.lookup "events" ∧
      (∀ c r, Event.create "events" c r ∉ new) ∧
      (∃ pre post, new = pre ++ post ∧ pre.count (.close ⟨0⟩) = 1 ∧
        post.count (.close ⟨0⟩) = 0 ∧ ∀ c r, Event.create "warehouse" c r ∉ pre) ∧
      ∃ u', s'.unitsByName.lookup "warehouse" = some u' ∧ u'.tokenIDs = ["t"] ∧
        Event.create "warehouse" (Collaborators.sample.resolve warehouseChanged)
          (some (u'.storage, u'.eventQueue)) ∈ new) ∧
    ∃ s' new, sampleState.init sampleHash .sample .listed droppedSnapshot = some s' ∧
      s'.events = sampleState.events ++ new ∧ s'.unitsByName.lookup "warehouse" = none ∧
      new.count (.close ⟨0⟩) = 1 ∧
      s'.unitsByName.lookup "events" = sampleState.unitsByName.lookup "events" := by
  have hw : sampleState.unitsByName.lookup "warehouse" = some ⟨none, ⟨0⟩, ["t"], 0, false⟩ := by
    decide
  have hev : sampleState.unitsByName.lookup "events" = some ⟨some ⟨4⟩, ⟨3⟩, ["t"], 0, false⟩ := by
    decide
  have h₁ := Option.eq_some_of_isSome
    (by decide : (sampleState.init sampleHash .sample .listed changedSnapshot).isSome)
  have h₂ := Option.eq_some_of_isSome
    (by decide : (sampleState.init sampleHash .sample .listed droppedSnapshot).isSome)
  obtain ⟨new₁, he₁, -, k₁, r₁, -⟩ := init_reconciles_each_name reachable_sampleState h₁
  obtain ⟨new₂, he₂, d₂, k₂, -, -⟩ := init_reconciles_each_name reachable_sampleState h₂
  obtain ⟨hk₁, -, hc₁⟩ :=
    k₁ "events" _ ⟨"s3", streamMode, [], false, []⟩ hev (by decide) (by decide)
  obtain ⟨hr₁, hiff, hnew⟩ := r₁ "warehouse" warehouseChanged (by decide)
    fun u hu => by rw [hw] at hu; cases hu; decide
  obtain ⟨pre, post, hnp, hcl, hcr⟩ := hr₁ _ hw
  obtain ⟨u', hu'⟩ := Option.isSome_iff_exists.1 (hiff.2 ⟨by decide, rfl⟩)
  obtain ⟨ht', -, hcreate⟩ := hnew u' hu'
  obtain ⟨hd₂, hcl₂⟩ := d₂ "warehouse" _ hw (by decide)
  obtain ⟨hk₂, -, -⟩ :=
    k₂ "events" _ ⟨"s3", streamMode, [], false, []⟩ hev (by decide) (by decide)
  exact ⟨reachable_sampleState, ⟨_, new₁, h₁, he₁, hk₁.trans hev.symm, hc₁,
    ⟨pre, post, hnp, (hcl ⟨0⟩ (by decide)).1, (hcl ⟨0⟩ (by decide)).2, hcr⟩, u', hu', ht',
      hcreate⟩, _, new₂, h₂, he₂, hd₂, hcl₂ ⟨0⟩ (by decide), hk₂.trans hev.symm⟩

end Jitsu.Destinations
