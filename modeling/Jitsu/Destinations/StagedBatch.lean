import Jitsu.Destinations.Calls

/-! # Staged batch destinations and the shared loggers

`init` registers the unit of a staged destination but skips its token loop, so a staged batch
unit never raises the usage of a token's shared logger. `remove` does not look at the flag: it
lowers the usage for every unit without a queue. This file states the two properties of the
shared loggers that this breaks, and runs that break them for every `getHash`:

* **`UsageMatches`** — the usage of a token's logger is the number of live non-staged batch units
  serving the token. **`staged_removal_breaks_logger_usage`**: once a staged and a non-staged
  batch destination share a token and the staged one is dropped, the token's logger is closed and
  its `LoggerUsage` deleted while the other unit still serves the token; the next `init` that
  removes that unit dereferences the missing `LoggerUsage`, in every iteration order.
* **`ReadSideOpen`** — no closed handle is reachable from the read side.
  **`staged_recreate_publishes_closed_logger`**: when a staged batch destination changes in the
  reload that adds a batch destination for its token, the recreation closes the logger the new
  destination has just put into `newConsumers`, and `AddAll` publishes the closed logger. -/

namespace Jitsu.Destinations

namespace Service

/-- **The usage a token's shared logger should have**: the number of occurrences of the token in
the token lists of the live batch units built from a non-staged config. -/
def loggerDemand (s : Service) (tokenID : String) : Nat :=
  GoMap.sumBy s.unitsByName fun _ u =>
    if u.eventQueue = none ∧ u.staged = false then u.tokenIDs.count tokenID else 0

/-- **The reference count of the shared loggers is right**: a token has a `LoggerUsage` exactly
when its demand is positive, and its usage is then the demand. -/
def UsageMatches (s : Service) : Prop :=
  ∀ tokenID, ((s.loggersUsageByTokenID.lookup tokenID).isSome ↔ 0 < s.loggerDemand tokenID) ∧
    ∀ lu, s.loggersUsageByTokenID.lookup tokenID = some lu → lu.usage = s.loggerDemand tokenID

/-- **No closed handle is reachable from the read side**: the consumers and storages of every
token, the storage of every unit and the logger of every `LoggerUsage` are open. -/
def ReadSideOpen (s : Service) : Prop :=
  (∀ tokenID x, some x ∈ s.getConsumers tokenID → s.closeCount x = 0) ∧
  (∀ tokenID x, x ∈ s.getStorages tokenID → s.closeCount x = 0) ∧
  (∀ id x, s.getStorageByID id = some x → s.closeCount x = 0) ∧
  (∀ tokenID lu, s.loggersUsageByTokenID.lookup tokenID = some lu → s.closeCount lu.logger = 0)

/-- A reconciliation whose deletion pass has a single unit to remove, and whose removal panics,
panics in every iteration order. -/
theorem init_eq_none_of_toDelete {getHash : String → DestinationConfig → UInt64} {s : Service}
    {deps : Collaborators} {ord : InitOrders} {dc : GoMap DestinationConfig}
    {e : GoMap.Entry Unit} (h : s.toDelete dc = [e]) (he : s.remove e.1 e.2 = none) :
    s.init getHash deps ord dc = none := by
  rw [init, h, List.perm_singleton.1 (ord.toDelete.perm [e])]
  simp [removeAll, he]

end Service

open Service

/-! ## The runs -/

/-- A staged batch destination for the token `t`. -/
def stagedCfg : DestinationConfig := ⟨"s3", "batch", ["t"], true, []⟩

/-- The staged destination after a change of one of its settings. -/
def stagedCfg' : DestinationConfig := { stagedCfg with settings := [("bucket", "b2")] }

/-- A batch destination for the token `t`, not staged. -/
def batchCfg : DestinationConfig := ⟨"s3", "batch", ["t"], false, []⟩

/-- The snapshot with the batch destination `b` and the staged destination `s`. -/
def stagedAndBatch (staged : DestinationConfig) : GoMap DestinationConfig :=
  ((∅ : GoMap DestinationConfig).insert "s" staged).insert "b" batchCfg

/-- **A staged batch unit's removal closes a logger still in use.** For every `getHash`: reload
`{b, s}` with `s` staged and both batch destinations of the token `t`, then `{b}`. The removal of
`s` lowers the usage of `t`'s logger, which only `b` had raised, to zero: the logger is closed
and its `LoggerUsage` deleted, while `b` is live and serves `t`. The reference count is then
wrong, and any later `init` that removes `b` dereferences the missing `LoggerUsage`. -/
theorem staged_removal_breaks_logger_usage (getHash : String → DestinationConfig → UInt64) :
    ∃ s, Reachable getHash (fun _ _ _ => True) s ∧
      s.loggersUsageByTokenID.lookup "t" = none ∧ s.loggerDemand "t" = 1 ∧ ¬ s.UsageMatches ∧
      Event.createLogger "t" ⟨2⟩ ∈ s.events ∧ Event.close ⟨2⟩ ∈ s.events ∧
      ∀ deps ord, s.init getHash deps ord ∅ = none := by
  have h₁ := Option.eq_some_of_isSome
    (rfl : (Service.empty.init getHash .sample .listed (stagedAndBatch stagedCfg)).isSome = true)
  let s₁ := (Service.empty.init getHash .sample .listed (stagedAndBatch stagedCfg)).get rfl
  let dc₂ := (∅ : GoMap DestinationConfig).insert "b" batchCfg
  let s₁' := (s₁.removeAll (s₁.toDelete dc₂)).get rfl
  have hu : s₁'.unitsByName.lookup "b" = some (newUnit (Collaborators.sample.resolve batchCfg)
      (getHash "b" (Collaborators.sample.resolve batchCfg)) ⟨0⟩ none) := rfl
  let facts (s : Service) := (s.loggersUsageByTokenID.lookup "t", s.loggerDemand "t",
    decide (Event.createLogger "t" ⟨2⟩ ∈ s.events), decide (Event.close ⟨2⟩ ∈ s.events),
    (s.toDelete ∅).map fun e => (s.remove e.1 e.2).isNone, (s.toDelete ∅).length)
  have e : (s₁.init getHash .sample .listed dc₂).map facts =
      (((s₁'.createOne getHash .sample {} "b" batchCfg).bind fun p =>
        createPass getHash .sample p.1 p.2 []).map fun p => p.1.publish p.2).map facts := rfl
  rw [createOne_of_unchanged getHash hu rfl] at e
  obtain ⟨s₂, h₂, hv⟩ := Option.map_eq_some'.1
    (e.trans (rfl : _ = some (none, 1, true, true, [true], 1)))
  simp only [facts, Prod.mk.injEq, decide_eq_true_eq] at hv
  obtain ⟨hl, hd, hcl, hc, hrm, hlen⟩ := hv
  obtain ⟨e₀, he₀⟩ := List.length_eq_one.1 hlen
  rw [he₀, List.map_singleton, List.singleton_inj, Option.isNone_iff_eq_none] at hrm
  refine ⟨s₂, .init _ _ _ (.init _ _ _ .empty trivial h₁) trivial h₂, hl, hd, fun hm => ?_, hcl,
    hc, fun _ _ => init_eq_none_of_toDelete he₀ hrm⟩
  have := (hm "t").1
  simp [hl, hd] at this

/-- **A staged batch unit's recreation publishes a closed logger.** For every `getHash` that tells
the two versions of the staged destination apart: reload `{s}`, then `{b, s'}`. The create loop
first builds `b`, whose token loop creates `t`'s logger and puts it into `newConsumers`; then it
recreates `s`, and the removal of the old `s` lowers that logger's usage to zero and closes it.
The final `AddAll` publishes the closed logger: `GetConsumers("t")` returns it. -/
theorem staged_recreate_publishes_closed_logger (getHash : String → DestinationConfig → UInt64)
    (hne : getHash "s" (Collaborators.sample.resolve stagedCfg) ≠
      getHash "s" (Collaborators.sample.resolve stagedCfg')) :
    ∃ s, Reachable getHash (fun _ _ _ => True) s ∧ s.getConsumers "t" = [some ⟨4⟩] ∧
      s.closeCount ⟨4⟩ = 1 ∧ ¬ s.ReadSideOpen := by
  let dc₁ := (∅ : GoMap DestinationConfig).insert "s" stagedCfg
  have h₁ := Option.eq_some_of_isSome
    (rfl : (Service.empty.init getHash .sample .listed dc₁).isSome = true)
  let s₁ := (Service.empty.init getHash .sample .listed dc₁).get rfl
  let pb := s₁.createUnit .sample "b" (Collaborators.sample.resolve batchCfg)
    (getHash "b" (Collaborators.sample.resolve batchCfg)) {}
  have hu : pb.1.unitsByName.lookup "s" = some (newUnit (Collaborators.sample.resolve stagedCfg)
      (getHash "s" (Collaborators.sample.resolve stagedCfg)) ⟨0⟩ none) := rfl
  let facts (s : Service) := (s.getConsumers "t", s.closeCount ⟨4⟩)
  have e : (s₁.init getHash .sample .listed (stagedAndBatch stagedCfg')).map facts =
      (((pb.1.createOne getHash .sample pb.2 "s" stagedCfg').bind fun p =>
        createPass getHash .sample p.1 p.2 []).map fun p => p.1.publish p.2).map facts := rfl
  rw [createOne_of_changed getHash hu hne] at e
  obtain ⟨s₂, h₂, hv⟩ := Option.map_eq_some'.1 (e.trans (rfl : _ = some ([some (⟨4⟩ : Handle)], 1)))
  simp only [facts, Prod.mk.injEq] at hv
  refine ⟨s₂, .init _ _ _ (.init _ _ _ .empty trivial h₁) trivial h₂, hv.1, hv.2, fun hr => ?_⟩
  have := hr.1 "t" ⟨4⟩ (by rw [hv.1]; exact .head _)
  omega

/-- The recreation run under the sample hash, which tells the two staged configs apart by their
number of settings. -/
theorem sample_staged_recreate_publishes_closed_logger :
    sampleHash "s" (Collaborators.sample.resolve stagedCfg) ≠
      sampleHash "s" (Collaborators.sample.resolve stagedCfg') ∧
    ∃ s, Reachable sampleHash (fun _ _ _ => True) s ∧ s.getConsumers "t" = [some ⟨4⟩] ∧
      s.closeCount ⟨4⟩ = 1 ∧ ¬ s.ReadSideOpen :=
  ⟨by decide, staged_recreate_publishes_closed_logger sampleHash (by decide)⟩

end Jitsu.Destinations
