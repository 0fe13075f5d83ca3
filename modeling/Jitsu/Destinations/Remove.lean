import Jitsu.Destinations.Service

/-! # What `remove` does

`remove(name, unit)` is the only operation that takes anything away from the service. This file
states once what one iteration of its token loop can do (`removeToken_cases`), and derives from it
the frame of the whole removal: the unit registry loses exactly `name`, no handle is allocated, and
the only calls made are `Close()` calls — the shared loggers that reach zero, then the unit's own
handles. The deletion pass `removeAll` inherits the same frame. -/

namespace Jitsu.Destinations

namespace Service

variable {s s' : Service} {name tokenID : String} {unit : Unit}

@[simp] theorem unregister_unitsByName (s : Service) (t n : String) (c : GoMap Consumer) :
    (s.unregister t n c).unitsByName = s.unitsByName := rfl
@[simp] theorem unregister_loggers (s : Service) (t n : String) (c : GoMap Consumer) :
    (s.unregister t n c).loggersUsageByTokenID = s.loggersUsageByTokenID := rfl
@[simp] theorem unregister_nextHandle (s : Service) (t n : String) (c : GoMap Consumer) :
    (s.unregister t n c).nextHandle = s.nextHandle := rfl
@[simp] theorem unregister_events (s : Service) (t n : String) (c : GoMap Consumer) :
    (s.unregister t n c).events = s.events := rfl
@[simp] theorem unregister_consumers (s : Service) (t n : String) (c : GoMap Consumer) :
    (s.unregister t n c).consumersByTokenID = s.consumersByTokenID.setOrDelete t c := rfl
@[simp] theorem unregister_storages (s : Service) (t n : String) (c : GoMap Consumer) :
    (s.unregister t n c).storagesByTokenID = s.storagesByTokenID.deleteName t n := rfl
@[simp] theorem unregister_ids (s : Service) (t n : String) (c : GoMap Consumer) :
    (s.unregister t n c).destinationsIDByTokenID = s.destinationsIDByTokenID.deleteName t n := rfl

/-- **Everything one iteration of `remove`'s token loop can do.** A unit with a queue deletes its
name from the token's consumers. A unit without one finds the token's `LoggerUsage` (or the
iteration panics) and either drops it, deleting the token's logger consumer and closing the
logger, or writes it back decremented. -/
theorem removeToken_cases (h : s.removeToken name unit tokenID = some s') :
    let inner := (s.consumersByTokenID.lookup tokenID).getD ∅
    (unit.eventQueue.isSome ∧ s' = s.unregister tokenID name (inner.erase name)) ∨
    ∃ lu, unit.eventQueue = none ∧ s.loggersUsageByTokenID.lookup tokenID = some lu ∧
      ((lu.usage - 1 = 0 ∧ s' = unregister { s with
          loggersUsageByTokenID := s.loggersUsageByTokenID.erase tokenID
          events := s.events ++ [.close lu.logger] } tokenID name (inner.erase tokenID)) ∨
       (lu.usage - 1 ≠ 0 ∧ s' = unregister { s with
          loggersUsageByTokenID := s.loggersUsageByTokenID.insert tokenID
            { lu with usage := lu.usage - 1 } } tokenID name inner)) := by
  unfold removeToken at h
  cases hq : unit.eventQueue with
  | some q => simp only [hq] at h; exact .inl ⟨rfl, (Option.some.inj h).symm⟩
  | none =>
    simp only [hq] at h
    cases hl : s.loggersUsageByTokenID.lookup tokenID with
    | none => simp [hl] at h
    | some lu =>
      simp only [hl] at h
      refine .inr ⟨lu, rfl, rfl, ?_⟩
      split at h
      · exact .inl ⟨‹_›, (Option.some.inj h).symm⟩
      · exact .inr ⟨‹_›, (Option.some.inj h).symm⟩

/-- The token loop never touches the unit registry or the allocator, and only closes handles. -/
theorem removeToken_frame (h : s.removeToken name unit tokenID = some s') :
    s'.unitsByName = s.unitsByName ∧ s'.nextHandle = s.nextHandle ∧
      ∃ new, s'.events = s.events ++ new ∧ ∀ e ∈ new, ∃ x, e = .close x := by
  rcases removeToken_cases h with ⟨-, rfl⟩ | ⟨lu, -, -, ⟨-, rfl⟩ | ⟨-, rfl⟩⟩
  · exact ⟨rfl, rfl, [], by simp⟩
  · exact ⟨rfl, rfl, [.close lu.logger], rfl, by simp⟩
  · exact ⟨rfl, rfl, [], by simp⟩

theorem removeTokens_frame {l : List String} (h : s.removeTokens name unit l = some s') :
    s'.unitsByName = s.unitsByName ∧ s'.nextHandle = s.nextHandle ∧
      ∃ new, s'.events = s.events ++ new ∧ ∀ e ∈ new, ∃ x, e = .close x := by
  induction l generalizing s with
  | nil => cases h; exact ⟨rfl, rfl, [], by simp⟩
  | cons t l ih =>
    obtain ⟨s₁, h₁, h⟩ := Option.bind_eq_some.1 h
    obtain ⟨hu₁, hn₁, new₁, he₁, hc₁⟩ := removeToken_frame h₁
    obtain ⟨hu, hn, new, he, hc⟩ := ih h
    refine ⟨hu.trans hu₁, hn.trans hn₁, new₁ ++ new, by rw [he, he₁, List.append_assoc], ?_⟩
    intro e he'
    rcases List.mem_append.1 he' with he' | he'
    exacts [hc₁ e he', hc e he']

/-- **The frame of `remove`**: the registry loses `name`, no handle is allocated, and the calls
made are `Close()` calls that end with the unit's own handles. -/
theorem remove_frame (h : s.remove name unit = some s') :
    s'.unitsByName = s.unitsByName.erase name ∧ s'.nextHandle = s.nextHandle ∧
      ∃ new, s'.events = s.events ++ new ++ unit.handles.map .close ∧
        ∀ e ∈ new, ∃ x, e = .close x := by
  obtain ⟨s₁, h₁, rfl⟩ := Option.map_eq_some'.1 h
  obtain ⟨hu, hn, new, he, hc⟩ := removeTokens_frame h₁
  exact ⟨by simp [hu], hn, new, by simp [closeUnit, he], hc⟩

/-- The deletion pass removes the listed units one after the other. -/
theorem removeAll_frame {l : List (GoMap.Entry Unit)} (h : s.removeAll l = some s') :
    s'.unitsByName = l.foldl (fun m e => m.erase e.1) s.unitsByName ∧
      s'.nextHandle = s.nextHandle ∧
      ∃ new, s'.events = s.events ++ new ∧ ∀ e ∈ new, ∃ x, e = .close x := by
  induction l generalizing s with
  | nil => cases h; exact ⟨rfl, rfl, [], by simp⟩
  | cons e l ih =>
    obtain ⟨s₁, h₁, h⟩ := Option.bind_eq_some.1 h
    obtain ⟨hu₁, hn₁, new₁, he₁, hc₁⟩ := remove_frame h₁
    obtain ⟨hu, hn, new, he, hc⟩ := ih h
    refine ⟨by rw [hu, hu₁]; rfl, hn.trans hn₁,
      new₁ ++ e.2.handles.map .close ++ new, by rw [he, he₁]; simp, ?_⟩
    intro e' he'
    simp only [List.mem_append, List.mem_map] at he'
    rcases he' with (he' | ⟨x, -, rfl⟩) | he'
    exacts [hc₁ e' he', ⟨x, rfl⟩, hc e' he']

end Service

end Jitsu.Destinations
