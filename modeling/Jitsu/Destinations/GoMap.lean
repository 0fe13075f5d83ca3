import Mathlib

/-! # Go maps and the tokenized collections

The destinations service keeps its whole state in Go maps keyed by strings. A Go
`map[string]α` is modelled as a Mathlib `AList` keyed by `String`:

* **`m[k] = v`** is `AList.insert`, **`delete(m, k)`** is `AList.erase`, **`v, ok := m[k]`** is
  `AList.lookup`, and **`len(m) == 0`** is `m.entries.isEmpty`.
* **`for k, v := range m`** visits the entries in an order the Go runtime picks afresh for every
  loop. The model never relies on the list order of an `AList`: every loop of the service ranges
  over `o.arrange m.entries` for a `RangeOrder o`, which is any permutation of the entries.
* **`Tokenized α`** is the service's `map[string]map[string]α` (token ID, then destination name
  or token ID). The source declares `TokenizedConsumers`, `TokenizedStorages` and `TokenizedIDs`
  with their `Add` and `AddAll` outside the files we have; they are modelled from the spec as
  `Tokenized.add` and `Tokenized.addAll`.
* **`GoMap.sumBy`** adds up a quantity over the entries of a map; the reference count of a shared
  logger and the number of owners of a handle are such sums. -/

namespace Jitsu.Destinations

/-- A Go `map[string]α`. -/
abbrev GoMap (α : Type) := AList (fun _ : String => α)

/-- One entry of a Go map, as a `range` loop sees it. -/
abbrev GoMap.Entry (α : Type) := Σ _ : String, α

variable {α : Type}

/-- **The order of one `range` loop over a map.** Go visits the entries of a map in an order it
chooses anew on every loop; a `RangeOrder` is one such choice, made for every map the loop could
meet, and carries the proof that it only permutes the entries. -/
structure RangeOrder (α : Type) where
  /-- The order in which the loop visits the given entries. -/
  arrange : List (GoMap.Entry α) → List (GoMap.Entry α)
  /-- The loop visits every entry exactly once. -/
  perm : ∀ l, (arrange l).Perm l

/-- The order in which the model happens to store the entries. -/
def RangeOrder.listed : RangeOrder α := ⟨id, fun _ => List.Perm.refl _⟩

/-- Ranging over a map against the order of its entries. -/
def RangeOrder.reversed : RangeOrder α := ⟨List.reverse, List.reverse_perm⟩

namespace GoMap

/-- A `range` loop visits exactly the keys of the map. -/
theorem mem_keys_arrange (o : RangeOrder α) (m : GoMap α) (n : String) :
    n ∈ (o.arrange m.entries).keys ↔ n ∈ m := by
  rw [List.keys, ((o.perm _).map _).mem_iff]
  exact AList.mem_keys.symm

/-- A `range` loop visits exactly the entries of the map. -/
theorem mem_arrange (o : RangeOrder α) (m : GoMap α) (n : String) (v : α) :
    (⟨n, v⟩ : Entry α) ∈ o.arrange m.entries ↔ m.lookup n = some v := by
  rw [(o.perm _).mem_iff]
  exact AList.mem_lookup_iff.symm

/-- The entries of a `range` loop have distinct keys. -/
theorem nodupKeys_arrange (o : RangeOrder α) (m : GoMap α) : (o.arrange m.entries).NodupKeys :=
  (List.perm_nodupKeys (o.perm _)).2 m.nodupKeys

/-- **A sum over the entries of a map**, `f k v` for every entry `k: v`. -/
def sumBy (m : GoMap α) (f : String → α → Nat) : Nat :=
  (m.entries.map fun e => f e.1 e.2).sum

/-- What the entry under `k`, if any, contributes to `sumBy m f`. -/
def at? (m : GoMap α) (f : String → α → Nat) (k : String) : Nat :=
  (m.lookup k).elim 0 (f k)

@[simp] theorem sumBy_empty (f : String → α → Nat) : (∅ : GoMap α).sumBy f = 0 := rfl

/-- Splitting the entry under `k` off a sum. -/
theorem sumBy_eq_at_add_erase (m : GoMap α) (f : String → α → Nat) (k : String) :
    m.sumBy f = m.at? f k + GoMap.sumBy (m.erase k) f := by
  by_cases hk : k ∈ m.keys
  · obtain ⟨b, l₁, l₂, hl₁, hm, he⟩ := List.exists_of_kerase hk
    have hlook : m.lookup k = some b := by
      rw [AList.lookup, hm, List.dlookup_append, List.dlookup_eq_none.2 hl₁]
      simp [List.dlookup_cons_eq]
    simp only [sumBy, at?, hlook, Option.elim, AList.erase]
    rw [he, hm]
    simp only [List.map_append, List.map_cons, List.sum_append, List.sum_cons]
    omega
  · have hlook : m.lookup k = none := AList.lookup_eq_none.2 (by rwa [AList.mem_keys])
    simp [sumBy, at?, hlook, AList.erase, List.kerase_of_not_mem_keys hk]

/-- A sum after `m[k] = v`: the new entry replaces whatever `k` held. -/
theorem sumBy_insert (m : GoMap α) (f : String → α → Nat) (k : String) (v : α) :
    GoMap.sumBy (m.insert k v) f = f k v + GoMap.sumBy (m.erase k) f := by
  simp [sumBy, AList.insert_entries, AList.erase]

@[simp] theorem at?_insert (m : GoMap α) (f : String → α → Nat) (k k' : String) (v : α) :
    GoMap.at? (m.insert k v) f k' = if k' = k then f k v else m.at? f k' := by
  by_cases h : k' = k
  · subst h; simp [at?, AList.lookup_insert]
  · simp [at?, AList.lookup_insert_ne h, h]

@[simp] theorem at?_erase (m : GoMap α) (f : String → α → Nat) (k k' : String) :
    GoMap.at? (m.erase k) f k' = if k' = k then 0 else m.at? f k' := by
  by_cases h : k' = k
  · subst h; simp [at?, AList.lookup_erase]
  · simp [at?, AList.lookup_erase_ne h, h]

/-- A sum after `delete(m, k)`. -/
theorem sumBy_erase (m : GoMap α) (f : String → α → Nat) (k : String) :
    GoMap.sumBy (m.erase k) f + m.at? f k = m.sumBy f := by
  rw [sumBy_eq_at_add_erase m f k]; omega

/-- A sum after `m[k] = v`, read off against the sum before. -/
theorem sumBy_insert_add (m : GoMap α) (f : String → α → Nat) (k : String) (v : α) :
    GoMap.sumBy (m.insert k v) f + m.at? f k = f k v + m.sumBy f := by
  rw [sumBy_insert, ← sumBy_erase m f k]; omega

/-- An entry contributes at most the whole sum. -/
theorem at?_le_sumBy (m : GoMap α) (f : String → α → Nat) (k : String) :
    m.at? f k ≤ m.sumBy f := by
  rw [sumBy_eq_at_add_erase m f k]; omega

/-- Sums of two functions that agree on every entry are equal. -/
theorem sumBy_congr (m : GoMap α) {f g : String → α → Nat}
    (h : ∀ k v, m.lookup k = some v → f k v = g k v) : m.sumBy f = m.sumBy g := by
  unfold sumBy
  congr 1
  refine List.map_congr_left fun e he => h e.1 e.2 ?_
  exact (AList.mem_lookup_iff).2 he

/-- A sum is positive exactly when some entry contributes to it. -/
theorem sumBy_pos_iff (m : GoMap α) (f : String → α → Nat) :
    0 < m.sumBy f ↔ ∃ k v, m.lookup k = some v ∧ 0 < f k v := by
  constructor
  · intro h
    by_contra hne
    push_neg at hne
    have := sumBy_congr m (g := fun _ _ => 0) fun k v hk => Nat.le_zero.1 (hne k v hk)
    rw [this] at h
    simp [sumBy] at h
  · rintro ⟨k, v, hk, hv⟩
    have := at?_le_sumBy m f k
    simp only [at?, hk, Option.elim] at this
    omega

end GoMap

/-- A Go `map[string]map[string]α`: the shape of `TokenizedConsumers`, `TokenizedStorages` and
`TokenizedIDs`, keyed by token ID and then by destination name (or token ID). -/
abbrev Tokenized (α : Type) := GoMap (GoMap α)

namespace Tokenized

/-- `ts[tokenID][key]`, absent when either level is. -/
def get (ts : Tokenized α) (tokenID key : String) : Option α :=
  (ts.lookup tokenID).bind (·.lookup key)

/-- Modelled from the spec: `ts.Add(tokenID, key, v)` sets `ts[tokenID][key] = v`, making the
inner map of the token when it has none. -/
def add (ts : Tokenized α) (tokenID key : String) (v : α) : Tokenized α :=
  ts.insert tokenID (((ts.lookup tokenID).getD ∅).insert key v)

/-- Modelled from the spec: `ts.AddAll(other)` adds every entry of `other` with `add`: the
additive merge of one reconciliation's new entries into the live maps. -/
def addAll (ts other : Tokenized α) : Tokenized α :=
  other.entries.foldl
    (fun ts e => e.2.entries.foldl (fun ts e' => ts.add e.1 e'.1 e'.2) ts) ts

/-- The `if len(inner) == 0 { delete(ts, tokenID) }` step that follows every deletion from an
inner map in `remove`: write the inner map back, or drop the token when it became empty. -/
def setOrDelete (ts : Tokenized α) (tokenID : String) (inner : GoMap α) : Tokenized α :=
  if inner.entries.isEmpty then ts.erase tokenID else ts.insert tokenID inner

/-- The storage and ID blocks of `remove`: `inner, ok := ts[tokenID]; if ok { delete(inner, name);
if len(inner) == 0 { delete(ts, tokenID) } }`. -/
def deleteName (ts : Tokenized α) (tokenID name : String) : Tokenized α :=
  match ts.lookup tokenID with
  | none => ts
  | some inner => ts.setOrDelete tokenID (inner.erase name)

/-- **No token maps to an empty inner map.** -/
def NoEmpty (ts : Tokenized α) : Prop :=
  ∀ tokenID inner, ts.lookup tokenID = some inner → inner.entries ≠ []

@[simp] theorem get_empty (t k : String) : Tokenized.get (∅ : Tokenized α) t k = none := rfl

/-- A map with no entries has nothing under any key. -/
theorem lookup_of_isEmpty {inner : GoMap α} (h : inner.entries.isEmpty = true) (k : String) :
    inner.lookup k = none := by
  rw [AList.lookup, List.isEmpty_iff.1 h, List.dlookup_nil]

@[simp] theorem get_add (ts : Tokenized α) (t k t' k' : String) (v : α) :
    (ts.add t k v).get t' k' = if t' = t ∧ k' = k then some v else ts.get t' k' := by
  unfold get add
  by_cases ht : t' = t
  · subst ht
    by_cases hk : k' = k
    · subst hk; simp [AList.lookup_insert]
    · simp only [AList.lookup_insert, Option.some_bind, AList.lookup_insert_ne hk, hk,
        and_false, if_false]
      cases ts.lookup t' <;> simp
  · simp [AList.lookup_insert_ne ht, ht]

/-- The inner loop of `addAll`: one inner map's entries, added under one token. -/
theorem get_foldl_add (t : String) (l : List (GoMap.Entry α)) (hl : l.NodupKeys)
    (ts : Tokenized α) (t' k' : String) :
    (l.foldl (fun ts e' => ts.add t e'.1 e'.2) ts).get t' k' =
      if t' = t then (l.dlookup k').or (ts.get t' k') else ts.get t' k' := by
  induction l generalizing ts with
  | nil => simp
  | cons e l ih =>
    obtain ⟨a, b⟩ := e
    rw [List.nodupKeys_cons] at hl
    rw [List.foldl_cons, ih hl.2]
    by_cases ht : t' = t
    · by_cases hk : k' = a
      · subst hk
        simp [ht, List.dlookup_eq_none.2 hl.1, List.dlookup_cons_eq]
      · simp [ht, hk, List.dlookup_cons_ne _ (⟨a, b⟩ : GoMap.Entry α) hk]
    · simp [ht]

/-- **`AddAll` is an additive merge**: an entry of `other` wins over the live entry under the same
keys, and every other live entry stays. -/
theorem get_addAll (ts other : Tokenized α) (t k : String) :
    (ts.addAll other).get t k = (other.get t k).or (ts.get t k) := by
  unfold addAll
  suffices ∀ (l : List (GoMap.Entry (GoMap α))) (ts : Tokenized α), l.NodupKeys →
      (l.foldl (fun ts e => e.2.entries.foldl (fun ts e' => ts.add e.1 e'.1 e'.2) ts) ts).get t k
        = ((l.dlookup t).bind (·.lookup k)).or (ts.get t k) from this _ _ other.nodupKeys
  intro l
  induction l with
  | nil => simp
  | cons e l ih =>
    intro ts hl
    obtain ⟨a, inner⟩ := e
    rw [List.nodupKeys_cons] at hl
    rw [List.foldl_cons, ih _ hl.2, get_foldl_add _ _ inner.nodupKeys]
    by_cases ht : t = a
    · subst ht
      simp [List.dlookup_eq_none.2 hl.1, List.dlookup_cons_eq, AList.lookup]
    · simp [ht, List.dlookup_cons_ne _ (⟨a, inner⟩ : GoMap.Entry (GoMap α)) ht]

@[simp] theorem get_setOrDelete (ts : Tokenized α) (t t' k : String) (inner : GoMap α) :
    (ts.setOrDelete t inner).get t' k = if t' = t then inner.lookup k else ts.get t' k := by
  unfold setOrDelete
  by_cases ht : t' = t
  · subst ht
    split
    · rename_i h
      simp [get, AList.lookup_erase, lookup_of_isEmpty h]
    · simp [get, AList.lookup_insert]
  · split <;> simp [get, AList.lookup_erase_ne ht, AList.lookup_insert_ne ht, ht]

@[simp] theorem get_deleteName (ts : Tokenized α) (t name t' k : String) :
    (ts.deleteName t name).get t' k = if t' = t ∧ k = name then none else ts.get t' k := by
  unfold deleteName
  by_cases ht : t' = t
  · subst ht
    cases h : ts.lookup t' with
    | none => simp [get, h]
    | some inner =>
      rw [get_setOrDelete, if_pos rfl]
      by_cases hk : k = name
      · subst hk; simp [AList.lookup_erase]
      · simp [AList.lookup_erase_ne hk, hk, get, h]
  · split <;> simp [ht]

theorem NoEmpty.add {ts : Tokenized α} (h : ts.NoEmpty) (t k : String) (v : α) :
    (ts.add t k v).NoEmpty := by
  intro t' inner hl
  by_cases ht : t' = t
  · subst ht
    rw [Tokenized.add, AList.lookup_insert, Option.some.injEq] at hl
    subst hl
    simp [AList.insert_entries]
  · rw [Tokenized.add, AList.lookup_insert_ne ht] at hl
    exact h t' inner hl

theorem NoEmpty.setOrDelete {ts : Tokenized α} (h : ts.NoEmpty) (t : String) (inner : GoMap α) :
    (ts.setOrDelete t inner).NoEmpty := by
  intro t' inner' hl
  unfold Tokenized.setOrDelete at hl
  by_cases ht : t' = t
  · subst ht
    split at hl
    · simp [AList.lookup_erase] at hl
    · rename_i hne
      rw [AList.lookup_insert, Option.some.injEq] at hl
      subst hl
      simpa [List.isEmpty_iff] using hne
  · split at hl
    · exact h t' inner' (by rwa [AList.lookup_erase_ne ht] at hl)
    · exact h t' inner' (by rwa [AList.lookup_insert_ne ht] at hl)

theorem NoEmpty.deleteName {ts : Tokenized α} (h : ts.NoEmpty) (t name : String) :
    (ts.deleteName t name).NoEmpty := by
  unfold Tokenized.deleteName
  split
  · exact h
  · exact h.setOrDelete _ _

theorem NoEmpty.foldl_add (t : String) (l : List (GoMap.Entry α)) {ts : Tokenized α}
    (h : ts.NoEmpty) : (l.foldl (fun ts e' => ts.add t e'.1 e'.2) ts).NoEmpty := by
  induction l generalizing ts with
  | nil => exact h
  | cons e l ih => exact ih (h.add _ _ _)

theorem NoEmpty.addAll {ts : Tokenized α} (h : ts.NoEmpty) (other : Tokenized α) :
    (ts.addAll other).NoEmpty := by
  unfold Tokenized.addAll
  induction other.entries generalizing ts with
  | nil => exact h
  | cons e l ih => exact ih (h.foldl_add _ _)

end Tokenized

end Jitsu.Destinations
