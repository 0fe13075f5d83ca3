import Jitsu.Destinations.Remove

/-! # What the create loop of `init` does

The create loop visits each destination of the snapshot once (`createOne`): it keeps a live unit
whose hash is unchanged, removes one whose hash changed, and then builds the destination
(`createUnit`) unless its authorization is empty or `Create` fails. This file states each of these
outcomes once, as inversion lemmas, so that the invariants of `init` never unfold the loop body. -/

namespace Jitsu.Destinations

namespace Service

variable {s : Service} {deps : Collaborators} {name : String} {cfg : DestinationConfig}
  {hash : UInt64} {acc : NewMaps}

/-- The state right after a successful `Create` and the registration of its unit. -/
def registered (s : Service) (name : String) (cfg : DestinationConfig) (hash : UInt64) :
    Service :=
  { s with
    unitsByName := s.unitsByName.insert name
      (newUnit cfg hash ⟨s.nextHandle⟩ (s.createdQueue cfg))
    nextHandle := s.nextHandle + 2
    events := s.events ++ [.create name cfg (some (⟨s.nextHandle⟩, s.createdQueue cfg))] }

/-- **The three outcomes of the create step.** Empty authorization skips the destination; a failed
`Create` only records the call; a successful one registers the unit and runs the token loop. -/
theorem createUnit_cases (s : Service) (deps : Collaborators) (name : String)
    (cfg : DestinationConfig) (hash : UInt64) (acc : NewMaps) :
    (cfg.onlyTokens.length = 0 ∧ s.createUnit deps name cfg hash acc = (s, acc)) ∨
    (cfg.onlyTokens.length ≠ 0 ∧ deps.createOk name cfg = false ∧
      s.createUnit deps name cfg hash acc =
        ({ s with events := s.events ++ [.create name cfg none] }, acc)) ∨
    (cfg.onlyTokens.length ≠ 0 ∧ deps.createOk name cfg = true ∧
      s.createUnit deps name cfg hash acc =
        addTokens name cfg (s.createdQueue cfg) ⟨s.nextHandle⟩ (s.registered name cfg hash) acc
          cfg.onlyTokens) := by
  unfold createUnit storageCreate
  by_cases h₀ : cfg.onlyTokens.length = 0
  · exact .inl ⟨h₀, by simp [h₀]⟩
  · cases hok : deps.createOk name cfg
    · exact .inr (.inl ⟨h₀, rfl, by simp [h₀, hok]⟩)
    · exact .inr (.inr ⟨h₀, rfl, by simp [h₀, hok, registered]⟩)

variable (getHash : String → DestinationConfig → UInt64)

/-- **The three outcomes of one iteration of the create loop.** -/
theorem createOne_cases {p : Service × NewMaps} {d : DestinationConfig}
    (h : s.createOne getHash deps acc name d = some p) :
    (∃ unit, s.unitsByName.lookup name = some unit ∧
      unit.hash = getHash name (deps.resolve d) ∧ p = (s, acc)) ∨
    (∃ unit s₁, s.unitsByName.lookup name = some unit ∧
      unit.hash ≠ getHash name (deps.resolve d) ∧ s.remove name unit = some s₁ ∧
      p = s₁.createUnit deps name (deps.resolve d) (getHash name (deps.resolve d)) acc) ∨
    (s.unitsByName.lookup name = none ∧
      p = s.createUnit deps name (deps.resolve d) (getHash name (deps.resolve d)) acc) := by
  unfold createOne at h
  cases hu : s.unitsByName.lookup name with
  | some unit =>
    simp only [hu] at h
    split_ifs at h with hh
    · exact .inl ⟨unit, rfl, hh, (Option.some.inj h).symm⟩
    · obtain ⟨s₁, h₁, rfl⟩ := Option.map_eq_some'.1 h
      exact .inr (.inl ⟨unit, s₁, rfl, hh, h₁, rfl⟩)
  | none =>
    simp only [hu] at h
    exact .inr (.inr ⟨rfl, (Option.some.inj h).symm⟩)

/-- An iteration of the create loop on a name with no live unit runs the create step. -/
theorem createOne_of_none {d : DestinationConfig} (hu : s.unitsByName.lookup name = none) :
    s.createOne getHash deps acc name d =
      some (s.createUnit deps name (deps.resolve d) (getHash name (deps.resolve d)) acc) := by
  simp [createOne, hu]

/-- An iteration of the create loop on a live unit whose hash is unchanged keeps it. -/
theorem createOne_of_unchanged {d : DestinationConfig} {unit : Unit}
    (hu : s.unitsByName.lookup name = some unit) (hh : unit.hash = getHash name (deps.resolve d)) :
    s.createOne getHash deps acc name d = some (s, acc) := by
  simp [createOne, hu, hh]

/-- An iteration of the create loop on a live unit whose hash changed removes it, then runs the
create step. -/
theorem createOne_of_changed {d : DestinationConfig} {unit : Unit}
    (hu : s.unitsByName.lookup name = some unit) (hh : unit.hash ≠ getHash name (deps.resolve d)) :
    s.createOne getHash deps acc name d = (s.remove name unit).map fun s =>
      s.createUnit deps name (deps.resolve d) (getHash name (deps.resolve d)) acc := by
  simp [createOne, hu, hh]

end Service

end Jitsu.Destinations
