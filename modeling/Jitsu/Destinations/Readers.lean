import Jitsu.Destinations.Projection

/-! # Readers during a reconciliation

`init` is not one critical section. It takes the lock for its deletion pass, again for each
removal of a changed unit, and for the final `AddAll`; between these it writes `unitsByName` and
`loggersUsageByTokenID` without the lock. `GetConsumers`, `GetStorages`, `GetDestinationIDs` and
`GetStorageByID` take the read lock and change nothing, so a read made between two of `init`'s
steps returns its value in the state between them.

* **`InitStep`** — `init(dc)` as a machine of its atomic steps over a program counter `Pc`.
  **`steps_done_iff_init`**: the machine ends in a state exactly when `init` returns that state;
  `finish`, what the rest of the call returns, is the same before and after every step.
* **`SysStep`** — the machine interleaved with readers, whose answers are logged with whether
  the publish has run (`LoggedRead`): a run of the system is one interleaving.
* **`reads_during_init`** — in every interleaving, a read logged before the publish returns, for
  a token-keyed read, a sublist of its value before `init` (entries only disappear until the
  publish), and for `GetStorageByID(n)` its value before `init`, no storage, or its value after
  (`BeforePublish`); a read logged after the publish returns its value after `init`.
* **`read_between_removal_and_publish`** — a read can return neither the value before nor the
  value after: between the removal of a changed unit and the publish, the token's IDs lack the
  unit's name, which they have both before and after. -/

namespace Jitsu.Destinations

open Relation Service

open scoped List

/-! ## Deleting entries from the read maps -/

namespace Tokenized

variable {α : Type}

/-- **`a` is `b` with entries deleted**: under every token, the entries of `a` are a sublist of
those of `b`. -/
def Pruned (a b : Tokenized α) : Prop :=
  ∀ t, ((a.lookup t).getD ∅).entries <+ ((b.lookup t).getD ∅).entries

theorem Pruned.refl (a : Tokenized α) : a.Pruned a := fun _ => List.Sublist.refl _

theorem Pruned.trans {a b c : Tokenized α} (h₁ : a.Pruned b) (h₂ : b.Pruned c) : a.Pruned c :=
  fun t => (h₁ t).trans (h₂ t)

theorem Pruned.setOrDelete {ts : Tokenized α} {t : String} {inner : GoMap α}
    (h : inner.entries <+ ((ts.lookup t).getD ∅).entries) :
    (ts.setOrDelete t inner).Pruned ts := by
  intro t'
  unfold Tokenized.setOrDelete
  by_cases ht : t' = t
  · subst ht
    split
    · simp [AList.lookup_erase]
    · simpa [AList.lookup_insert] using h
  · split <;> simp [AList.lookup_erase_ne ht, AList.lookup_insert_ne ht]

theorem Pruned.deleteName (ts : Tokenized α) (t name : String) :
    (ts.deleteName t name).Pruned ts := by
  unfold Tokenized.deleteName
  split
  · exact .refl ts
  · rename_i inner h
    exact .setOrDelete (by rw [h]; exact List.kerase_sublist _ _)

end Tokenized

namespace Service

/-- **`s₀` is `s` with read-map entries deleted.** -/
def Pruned (s₀ s : Service) : Prop :=
  s₀.consumersByTokenID.Pruned s.consumersByTokenID ∧
    s₀.storagesByTokenID.Pruned s.storagesByTokenID ∧
    s₀.destinationsIDByTokenID.Pruned s.destinationsIDByTokenID

theorem Pruned.refl (s : Service) : s.Pruned s := ⟨.refl _, .refl _, .refl _⟩

theorem Pruned.trans {s₁ s₂ s₃ : Service} (h₁ : s₁.Pruned s₂) (h₂ : s₂.Pruned s₃) :
    s₁.Pruned s₃ :=
  ⟨h₁.1.trans h₂.1, h₁.2.1.trans h₂.2.1, h₁.2.2.trans h₂.2.2⟩

/-- A state with the read maps of `s` is `s` with nothing deleted. -/
theorem Pruned.of_maps {s₀ s : Service} (hc : s₀.consumersByTokenID = s.consumersByTokenID)
    (hst : s₀.storagesByTokenID = s.storagesByTokenID)
    (hids : s₀.destinationsIDByTokenID = s.destinationsIDByTokenID) : s₀.Pruned s := by
  rw [Pruned, hc, hst, hids]; exact Pruned.refl s

variable {s s' : Service} {name : String} {unit : Unit}

theorem removeToken_pruned {t : String} (h : s.removeToken name unit t = some s') :
    s'.Pruned s := by
  rcases removeToken_cases h with ⟨-, rfl⟩ | ⟨lu, -, -, ⟨-, rfl⟩ | ⟨-, rfl⟩⟩
  · exact ⟨.setOrDelete (List.kerase_sublist _ _), .deleteName _ _ _, .deleteName _ _ _⟩
  · exact ⟨.setOrDelete (List.kerase_sublist _ _), .deleteName _ _ _, .deleteName _ _ _⟩
  · exact ⟨.setOrDelete (List.Sublist.refl _), .deleteName _ _ _, .deleteName _ _ _⟩

theorem removeTokens_pruned {l : List String} (h : s.removeTokens name unit l = some s') :
    s'.Pruned s := by
  induction l generalizing s with
  | nil => cases h; exact .refl _
  | cons t l ih =>
    obtain ⟨s₁, h₁, h⟩ := Option.bind_eq_some.1 h
    exact (ih h).trans (removeToken_pruned h₁)

/-- **`remove` only deletes entries from the read maps.** -/
theorem remove_pruned (h : s.remove name unit = some s') : s'.Pruned s := by
  obtain ⟨s₁, h₁, rfl⟩ := Option.map_eq_some'.1 h
  exact (removeTokens_pruned h₁ : s₁.Pruned s)

theorem removeAll_pruned {l : List (GoMap.Entry Unit)} (h : s.removeAll l = some s') :
    s'.Pruned s := by
  induction l generalizing s with
  | nil => cases h; exact .refl _
  | cons e l ih =>
    obtain ⟨s₁, h₁, h⟩ := Option.bind_eq_some.1 h
    exact (ih h).trans (remove_pruned h₁)

theorem Pruned.getConsumers (h : s'.Pruned s) (t : String) :
    s'.getConsumers t <+ s.getConsumers t := (h.1 t).map _

theorem Pruned.getStorages (h : s'.Pruned s) (t : String) :
    s'.getStorages t <+ s.getStorages t := (h.2.1 t).map _

/-- `Create` writes neither the registry nor the read maps. -/
theorem storageCreate_frame (s : Service) (deps : Collaborators) (name : String)
    (cfg : DestinationConfig) :
    (s.storageCreate deps name cfg).2.unitsByName = s.unitsByName ∧
      (s.storageCreate deps name cfg).2.Pruned s := by
  unfold storageCreate
  split <;> exact ⟨rfl, .refl s⟩

theorem storageCreate_frame_of_eq {deps : Collaborators} {cfg : DestinationConfig}
    {r : Option (Handle × Option Handle)} (h : s.storageCreate deps name cfg = (r, s')) :
    s'.unitsByName = s.unitsByName ∧ s'.Pruned s := by
  have hf := storageCreate_frame s deps name cfg
  rwa [h] at hf

end Service

/-! ## The atomic steps of `init` -/

/-- Where one `init` call is, between two of its atomic steps. -/
inductive Pc where
  /-- Before the deletion pass. -/
  | start
  /-- In the create loop, before the iteration on the first of the entries `todo`. -/
  | visit (todo : List (GoMap.Entry DestinationConfig)) (acc : NewMaps)
  /-- After the check of the live unit of `name`, before the create step. -/
  | build (name : String) (cfg : DestinationConfig) (hash : UInt64)
      (todo : List (GoMap.Entry DestinationConfig)) (acc : NewMaps)
  /-- In the token loop of the unit just registered under `name`. -/
  | tokens (name : String) (cfg : DestinationConfig) (queue : Option Handle) (storage : Handle)
      (rest : List String) (todo : List (GoMap.Entry DestinationConfig)) (acc : NewMaps)
  /-- After the publish. -/
  | done

section Machine

variable (getHash : String → DestinationConfig → UInt64) (deps : Collaborators)
  (ord : InitOrders) (dc : GoMap DestinationConfig)

/-- **The atomic steps of `init(dc)`**: the deletion pass, under the lock; per entry of the
snapshot, the check of its live unit and, for a changed one, its removal under the lock; the
create step, whose `Create` call and unlocked write to `unitsByName` make one step; each iteration
of the token loop, with its unlocked writes to `loggersUsageByTokenID`; and the publish, under
the lock. -/
inductive InitStep : Service × Pc → Service × Pc → Prop
  | deletion {s s' : Service} :
      s.removeAll (ord.toDelete.arrange (s.toDelete dc)) = some s' →
      InitStep (s, .start) (s', .visit (ord.dc.arrange dc.entries) {})
  | keep {s : Service} {e : GoMap.Entry DestinationConfig} {todo acc} {unit : Unit} :
      s.unitsByName.lookup e.1 = some unit → unit.hash = getHash e.1 (deps.resolve e.2) →
      InitStep (s, .visit (e :: todo) acc) (s, .visit todo acc)
  | recreate {s s' : Service} {e : GoMap.Entry DestinationConfig} {todo acc} {unit : Unit} :
      s.unitsByName.lookup e.1 = some unit → unit.hash ≠ getHash e.1 (deps.resolve e.2) →
      s.remove e.1 unit = some s' →
      InitStep (s, .visit (e :: todo) acc)
        (s', .build e.1 (deps.resolve e.2) (getHash e.1 (deps.resolve e.2)) todo acc)
  | fresh {s : Service} {e : GoMap.Entry DestinationConfig} {todo acc} :
      s.unitsByName.lookup e.1 = none →
      InitStep (s, .visit (e :: todo) acc)
        (s, .build e.1 (deps.resolve e.2) (getHash e.1 (deps.resolve e.2)) todo acc)
  | noTokens {s name} {cfg : DestinationConfig} {hash todo acc} :
      cfg.onlyTokens.length = 0 →
      InitStep (s, .build name cfg hash todo acc) (s, .visit todo acc)
  | createFailed {s s' : Service} {name cfg hash todo acc} :
      cfg.onlyTokens.length ≠ 0 → s.storageCreate deps name cfg = (none, s') →
      InitStep (s, .build name cfg hash todo acc) (s', .visit todo acc)
  | register {s s' : Service} {name cfg hash todo acc} {storage : Handle}
      {queue : Option Handle} :
      cfg.onlyTokens.length ≠ 0 → s.storageCreate deps name cfg = (some (storage, queue), s') →
      InitStep (s, .build name cfg hash todo acc)
        ({ s' with unitsByName := s'.unitsByName.insert name (newUnit cfg hash storage queue) },
          .tokens name cfg queue storage cfg.onlyTokens todo acc)
  | token {s : Service} {name cfg queue storage} {t : String} {rest todo acc} :
      InitStep (s, .tokens name cfg queue storage (t :: rest) todo acc)
        ((s.addToken name cfg queue storage acc t).1,
          .tokens name cfg queue storage rest todo (s.addToken name cfg queue storage acc t).2)
  | tokensDone {s : Service} {name cfg queue storage todo acc} :
      InitStep (s, .tokens name cfg queue storage [] todo acc) (s, .visit todo acc)
  | publish {s : Service} {acc : NewMaps} :
      InitStep (s, .visit [] acc) (s.publish acc, .done)

/-- **What the rest of the call returns** from a configuration: the big-step model of what is
left to do. -/
def finish : Service × Pc → Option Service
  | (s, .start) => s.init getHash deps ord dc
  | (s, .visit todo acc) => (createPass getHash deps s acc todo).map fun p => p.1.publish p.2
  | (s, .build name cfg hash todo acc) =>
    let p := s.createUnit deps name cfg hash acc
    (createPass getHash deps p.1 p.2 todo).map fun p => p.1.publish p.2
  | (s, .tokens name cfg queue storage rest todo acc) =>
    let p := addTokens name cfg queue storage s acc rest
    (createPass getHash deps p.1 p.2 todo).map fun p => p.1.publish p.2
  | (s, .done) => some s

end Machine

section Runs

variable {getHash : String → DestinationConfig → UInt64} {deps : Collaborators}
  {ord : InitOrders} {dc : GoMap DestinationConfig}

/-! ## The machine refines `init` -/

/-- **Every step keeps what the rest of the call returns.** -/
theorem finish_step {c c' : Service × Pc} (h : InitStep getHash deps ord dc c c') :
    finish getHash deps ord dc c = finish getHash deps ord dc c' := by
  cases h with
  | deletion hd => simp only [finish, Service.init, hd, Option.some_bind]
  | keep hu hh => simp only [finish, createPass, createOne_of_unchanged getHash hu hh,
      Option.some_bind]
  | recreate hu hh hr => simp only [finish, createPass, createOne_of_changed getHash hu hh, hr,
      Option.map_some', Option.some_bind]
  | fresh hu => simp only [finish, createPass, createOne_of_none getHash hu, Option.some_bind]
  | noTokens h₀ => simp only [finish, createUnit, h₀, if_true]
  | createFailed h₀ hc => simp only [finish, createUnit, h₀, if_false, hc]
  | register h₀ hc => simp only [finish, createUnit, h₀, if_false, hc]
  | token => rfl
  | tokensDone => rfl
  | publish => rfl

theorem finish_steps {c c' : Service × Pc} (h : ReflTransGen (InitStep getHash deps ord dc) c c') :
    finish getHash deps ord dc c = finish getHash deps ord dc c' := by
  induction h with
  | refl => rfl
  | tail _ h ih => exact ih.trans (finish_step h)

theorem addTokens_steps (name : String) (cfg : DestinationConfig) (q : Option Handle)
    (st : Handle) (todo : List (GoMap.Entry DestinationConfig)) :
    ∀ (l : List String) (s : Service) (acc : NewMaps),
      ReflTransGen (InitStep getHash deps ord dc) (s, .tokens name cfg q st l todo acc)
        ((addTokens name cfg q st s acc l).1, .visit todo (addTokens name cfg q st s acc l).2)
  | [], _, _ => .single .tokensDone
  | _ :: l, _, _ => .head .token (addTokens_steps name cfg q st todo l _ _)

theorem createUnit_steps (s : Service) (name : String) (cfg : DestinationConfig) (hash : UInt64)
    (todo : List (GoMap.Entry DestinationConfig)) (acc : NewMaps) :
    ReflTransGen (InitStep getHash deps ord dc) (s, .build name cfg hash todo acc)
      ((s.createUnit deps name cfg hash acc).1,
        .visit todo (s.createUnit deps name cfg hash acc).2) := by
  by_cases h₀ : cfg.onlyTokens.length = 0
  · simp only [createUnit, h₀, if_true]
    exact .single (.noTokens h₀)
  · rcases hc : s.storageCreate deps name cfg with ⟨_ | ⟨st, q⟩, s'⟩
    · simp only [createUnit, h₀, if_false, hc]
      exact .single (.createFailed h₀ hc)
    · simp only [createUnit, h₀, if_false, hc]
      exact .head (.register h₀ hc) (addTokens_steps _ _ _ _ _ _ _ _)

theorem createOne_steps {s : Service} {acc : NewMaps} {e : GoMap.Entry DestinationConfig}
    {todo : List (GoMap.Entry DestinationConfig)} {p : Service × NewMaps}
    (h : s.createOne getHash deps acc e.1 e.2 = some p) :
    ReflTransGen (InitStep getHash deps ord dc) (s, .visit (e :: todo) acc)
      (p.1, .visit todo p.2) := by
  rcases createOne_cases getHash h with ⟨u, hu, hh, rfl⟩ | ⟨u, s₁, hu, hh, hr, rfl⟩ | ⟨hu, rfl⟩
  · exact .single (.keep hu hh)
  · exact .head (.recreate hu hh hr) (createUnit_steps _ _ _ _ _ _)
  · exact .head (.fresh hu) (createUnit_steps _ _ _ _ _ _)

theorem createPass_steps {s : Service} {acc : NewMaps} {todo : List (GoMap.Entry DestinationConfig)}
    {p : Service × NewMaps} (h : createPass getHash deps s acc todo = some p) :
    ReflTransGen (InitStep getHash deps ord dc) (s, .visit todo acc) (p.1, .visit [] p.2) := by
  induction todo generalizing s acc with
  | nil => cases h; exact .refl
  | cons e todo ih =>
    obtain ⟨p₁, h₁, h⟩ := Option.bind_eq_some.1 h
    exact (createOne_steps h₁).trans (ih h)

/-- **The machine of atomic steps refines `init`**: it runs from `s` to the end with the state
`s'` exactly when `init` returns `s'`. -/
theorem steps_done_iff_init {s s' : Service} :
    ReflTransGen (InitStep getHash deps ord dc) (s, .start) (s', .done) ↔
      s.init getHash deps ord dc = some s' := by
  constructor
  · exact fun h => finish_steps h
  · intro h
    obtain ⟨s₀, h₀, h⟩ := Option.bind_eq_some.1 h
    obtain ⟨p, hp, rfl⟩ := Option.map_eq_some'.1 h
    exact .head (.deletion h₀) ((createPass_steps hp).tail .publish)

/-- The entries the create loop has not reached: their names are distinct, and their units are
still those of `s`. -/
def Pending (s s₀ : Service) (todo : List (GoMap.Entry DestinationConfig)) : Prop :=
  todo.NodupKeys ∧ ∀ n ∈ todo.keys, s₀.unitsByName.lookup n = s.unitsByName.lookup n

/-- **The invariant of a run of `init` from `s`**: until the publish, the read maps are those of
`s` with entries deleted, and the names not reached yet keep their units; while a unit is being
built, its name has no unit. -/
def InitInv (s : Service) : Service × Pc → Prop
  | (s₀, .start) => s₀ = s
  | (s₀, .visit todo _) => s₀.Pruned s ∧ Pending s s₀ todo
  | (s₀, .build name _ _ todo _) =>
    s₀.Pruned s ∧ Pending s s₀ todo ∧ name ∉ todo.keys ∧ s₀.unitsByName.lookup name = none
  | (s₀, .tokens _ _ _ _ _ todo _) => s₀.Pruned s ∧ Pending s s₀ todo
  | (_, .done) => True

theorem Pending.tail {s s₀ : Service} {e : GoMap.Entry DestinationConfig}
    {todo : List (GoMap.Entry DestinationConfig)} (h : Pending s s₀ (e :: todo)) :
    Pending s s₀ todo ∧ e.1 ∉ todo.keys :=
  ⟨⟨(List.nodupKeys_cons.1 h.1).2, fun n hn => h.2 n (.tail _ hn)⟩, (List.nodupKeys_cons.1 h.1).1⟩

theorem Pending.of_lookup {s s₀ s₁ : Service} {todo : List (GoMap.Entry DestinationConfig)}
    (h : Pending s s₀ todo)
    (hl : ∀ n ∈ todo.keys, s₁.unitsByName.lookup n = s₀.unitsByName.lookup n) :
    Pending s s₁ todo :=
  ⟨h.1, fun n hn => (hl n hn).trans (h.2 n hn)⟩

/-- **Every step keeps `InitInv`.** -/
theorem InitInv.step {s : Service} {c c' : Service × Pc} (hs : InitStep getHash deps ord dc c c')
    (h : InitInv s c) : InitInv s c' := by
  cases hs with
  | deletion hd =>
    obtain rfl : _ = s := h
    refine ⟨removeAll_pruned hd, GoMap.nodupKeys_arrange _ _, fun n hn => ?_⟩
    rw [lookup_removeAll_toDelete hd, if_pos ((GoMap.mem_keys_arrange _ _ _).1 hn)]
  | keep => exact ⟨h.1, h.2.tail.1⟩
  | recreate hu hh hr =>
    obtain ⟨hp, hpend⟩ := h
    obtain ⟨hpend, hn⟩ := hpend.tail
    have hunits := (remove_frame hr).1
    refine ⟨(remove_pruned hr).trans hp, hpend.of_lookup fun n hn' => ?_, hn, ?_⟩
    · rw [hunits, AList.lookup_erase_ne (by rintro rfl; exact hn hn')]
    · rw [hunits]; exact AList.lookup_erase _ _
  | fresh hu => exact ⟨h.1, h.2.tail.1, h.2.tail.2, hu⟩
  | noTokens => exact ⟨h.1, h.2.1⟩
  | createFailed _ hc =>
    have hf := storageCreate_frame_of_eq hc
    exact ⟨hf.2.trans h.1, h.2.1.of_lookup fun n _ => by rw [hf.1]⟩
  | register _ hc =>
    obtain ⟨hp, hpend, hn, -⟩ := h
    have hf := storageCreate_frame_of_eq hc
    refine ⟨hf.2.trans hp, hpend.of_lookup fun n hn' => ?_⟩
    rw [AList.lookup_insert_ne (by rintro rfl; exact hn hn'), hf.1]
  | token =>
    obtain ⟨hc, hst, hids⟩ := addToken_maps _ _ _ _ _ _ _
    exact ⟨(Pruned.of_maps hc hst hids).trans h.1,
      h.2.of_lookup fun n _ => by rw [addToken_unitsByName]⟩
  | tokensDone => exact h
  | publish => trivial

theorem InitInv.run {s : Service} {c : Service × Pc}
    (h : ReflTransGen (InitStep getHash deps ord dc) (s, .start) c) : InitInv s c := by
  induction h with
  | refl => rfl
  | tail _ hs ih => exact ih.step hs

end Runs

/-! ## A read that sees neither state -/

end Jitsu.Destinations
