/-!
# Steps that succeed

A chain of steps succeeds exactly if each of its steps does.
-/

namespace AgentCohort

theorem bind_eq_ok {step : Except ε α} {next : α → Except ε β} {result : β}
    (succeeded : step >>= next = .ok result) :
    ∃ value, step = .ok value ∧ next value = .ok result := by
  cases step with
  | error fault => cases succeeded
  | ok value => exact ⟨value, rfl, succeeded⟩

theorem bind_eq_ok_iff {step : Except ε α} {next : α → Except ε β} {result : β} :
    step >>= next = .ok result ↔ ∃ value, step = .ok value ∧ next value = .ok result := by
  constructor
  · exact bind_eq_ok
  · rintro ⟨value, rfl, succeeded⟩
    exact succeeded

theorem map_eq_ok {step : Except ε α} {change : α → β} {result : β}
    (succeeded : step.map change = .ok result) :
    ∃ value, step = .ok value ∧ change value = result := by
  cases step with
  | error fault => cases succeeded
  | ok value => exact ⟨value, rfl, Except.ok.inj succeeded⟩

theorem map_eq_ok_iff_of_injective {step : Except ε α} {change : α → β} {value : α}
    (injective : Function.Injective change) :
    step.map change = .ok (change value) ↔ step = .ok value := by
  constructor
  · intro succeeded
    obtain ⟨found, rfl, same⟩ := map_eq_ok succeeded
    rw [injective same]
  · rintro rfl
    rfl

theorem mapError_eq_ok_iff {step : Except ε α} {change : ε → ε'} {value : α} :
    step.mapError change = .ok value ↔ step = .ok value := by
  cases step with
  | error fault => exact ⟨nofun, nofun⟩
  | ok found =>
      change Except.ok found = Except.ok value ↔ _
      rw [Except.ok.injEq, Except.ok.injEq]

theorem eq_ok_of_toOption {step : Except ε α} {value : α} (succeeded : step.toOption = some value) :
    step = .ok value := by
  cases step with
  | error fault => cases succeeded
  | ok found => exact congrArg Except.ok (Option.some.inj succeeded)

/-- Where one of several steps fails, some step is the first to fail. -/
theorem exists_of_mapM_eq_error {step : α → Except ε β} {entries : List α} {fault : ε}
    (failed : entries.mapM step = .error fault) :
    ∃ earlier entry later, entries = earlier ++ entry :: later ∧
      (∀ other ∈ earlier, ∃ result, step other = .ok result) ∧ step entry = .error fault := by
  induction entries with
  | nil => cases failed
  | cons entry entries inductionHypothesis =>
      rw [List.mapM_cons] at failed
      cases first : step entry with
      | error found =>
          rw [first] at failed
          obtain rfl := Except.error.inj failed
          exact ⟨[], entry, entries, rfl, nofun, first⟩
      | ok result =>
          cases others : entries.mapM step with
          | ok results =>
              rw [first, others] at failed
              cases failed
          | error found =>
              rw [first, others] at failed
              obtain rfl := Except.error.inj failed
              obtain ⟨earlier, other, later, split, passed, here⟩ := inductionHypothesis others
              refine ⟨entry :: earlier, other, later, congrArg (entry :: ·) split, ?_, here⟩
              exact List.forall_mem_cons.mpr ⟨⟨result, first⟩, passed⟩

end AgentCohort
