import AgentCohort.Proofs.Agent.RegistrationLoop

/-!
# Agents that register for long

An agent counts its attempts in a word of 32 bits, and there is no limit to their number.  So the
word comes round, and whenever it has done so the next attempt is taken for a first one: that the
orchestrator cannot be reached is then logged once more.
-/

namespace AgentCohort
namespace Agent

/-- The lines that say that the orchestrator cannot be reached yet, by the outcomes of the
attempts, the newest first: the attempts that are taken for first ones are those whose number is
one more than a multiple of the size of the word. -/
def absencesOf : List (Nat × Outcome) → List (Nat × String)
  | [] => []
  | (time, outcome) :: older =>
    (if UInt32.size ∣ older.length then outcome.absence?.map (time, ·) else none).toList ++
      absencesOf older

/-- As many attempts as the word has values are told apart from the first one. -/
theorem absencesOf_of_length_le
    {outcomes : List (Nat × Outcome)}
    (few : outcomes.length ≤ UInt32.size) :
    absencesOf outcomes = tells Outcome.absence? outcomes.getLast?.toList := by
  induction outcomes with
  | nil => rfl
  | cons newest older inductionHypothesis =>
      obtain ⟨time, outcome⟩ := newest
      cases older with
      | nil => cases outcome <;> rfl
      | cons next oldest =>
          have again : ¬UInt32.size ∣ (next :: oldest).length :=
            Nat.not_dvd_of_pos_of_lt (Nat.succ_pos _) few
          rw [absencesOf, if_neg again, List.getLast?_cons_cons]
          exact inductionHypothesis (Nat.le_of_succ_le few)

namespace Life

variable {profile : Profile}
variable {start now : Nat}
variable {life next : Life}
variable {happening : Happening}
variable {trace : List (Nat × Happening)}

theorem CourseStep.absences
    (step : CourseStep profile now life happening next)
    (onCourse : life.OnCourse profile now)
    (absences : life.course.absences = absencesOf life.course.outcomes) :
    next.course.absences = absencesOf next.course.outcomes := by
  cases step with
  | keeps _ _ _ course | spawns _ _ _ _ course | stops _ _ _ course | begins _ _ _ _ course =>
      rw [course]
      exact absences
  | ends outcome _ attempting _ course =>
      obtain ⟨isOpen, follows, awaits⟩ := onCourse
      rw [attempting] at awaits
      obtain rfl := awaits
      rw [course]
      simp only [Course.finish, absencesOf, follows.counter_eq_one_iff_dvd, absences]

/-- The journal tells that the orchestrator cannot be reached yet as often as an attempt that is
taken for a first one tells so. -/
theorem RunsOnClock.absences (runs : RunsOnClock profile start .initial trace now life) :
    life.course.absences = absencesOf life.course.outcomes := by
  induction runs with
  | nil => rfl
  | happens runs does inductionHypothesis =>
      exact (does.courseStep runs.runs.sound_and_staged.1).absences runs.onCourse
        inductionHypothesis
  | waits _ _ _ inductionHypothesis => exact inductionHypothesis

/-- Every attempt that has begun is counted, in the word. -/
theorem RunsOnClock.attempts_eq (runs : RunsOnClock profile start .initial trace now life) :
    life.attempts = UInt32.ofNat life.course.posts.length := by
  obtain ⟨_, follows, _⟩ := runs.onCourse
  exact follows.counter

/-- No more than one of the attempts has not ended. -/
theorem RunsOnClock.length_posts_bounds
    (runs : RunsOnClock profile start .initial trace now life) :
    life.course.outcomes.length ≤ life.course.posts.length ∧
      life.course.posts.length ≤ life.course.outcomes.length + 1 := by
  obtain ⟨isOpen, follows, _⟩ := runs.onCourse
  have length := follows.turns.length_eq
  rw [List.length_map] at length
  have atMostOne := isOpen.toNat_le
  omega

/-- While an attempt is open, one more has begun than have ended. -/
theorem RunsOnClock.length_posts_of_attempting
    (runs : RunsOnClock profile start .initial trace now life)
    (attempting : life.stage = .attempting) :
    life.course.posts.length = life.course.outcomes.length + 1 := by
  obtain ⟨isOpen, follows, awaits⟩ := runs.onCourse
  rw [attempting] at awaits
  obtain rfl := awaits
  simpa using follows.turns.length_eq

/-- However many attempts are made in vain, the next one may begin. -/
theorem exists_attempting_in_vain (profile : Profile) (cause : String) (count : Nat) :
    ∃ trace now life, RunsOnClock profile 0 .initial trace now life ∧ life.stage = .attempting ∧
      (tells Happening.outcome? trace).map Prod.snd =
        List.replicate count (.unreachable cause) := by
  refine exists_attempting_after profile fun outcome present => ?_
  rw [List.eq_of_mem_replicate present]
  rfl

/-- The word has no room for the attempt after as many as it can count, and begins anew. -/
theorem exists_overflow (profile : Profile) (cause : String) :
    ∃ trace now life next, RunsOnClock profile 0 .initial trace now life ∧
      DoesAt profile now life (.move .retry) next ∧
      (∀ ended ∈ tells Happening.outcome? trace, ended.2 = .unreachable cause) ∧
      life.attempts.toNat + 1 = UInt32.size ∧ next.attempts = 0 := by
  obtain ⟨trace, now, life, runs, attempting, outcomes⟩ :=
    exists_attempting_in_vain profile cause (UInt32.size - 2)
  have failed : (Outcome.unreachable cause).isSuccess = false := rfl
  obtain ⟨due, waiting, waits, retries, course⟩ := runs.exists_retry attempting failed
  have posts : waiting.course.posts.length = UInt32.size - 1 := by
    have length := congrArg List.length outcomes
    rw [List.length_map, List.length_replicate, ← runs.outcomes] at length
    rw [course]
    change life.course.posts.length = _
    rw [runs.length_posts_of_attempting attempting, length]
    rfl
  have full : waiting.attempts = UInt32.ofNat (UInt32.size - 1) := by
    rw [waits.attempts_eq, posts]
  refine ⟨_, due, waiting, _, waits, retries, ?_, ?_, ?_⟩
  · intro ended present
    rw [tells_cons] at present
    rcases List.mem_cons.mp present with rfl | before
    · rfl
    · exact List.eq_of_mem_replicate (outcomes ▸ List.mem_map_of_mem before)
  · rw [full]
    rfl
  · change waiting.attempts + 1 = 0
    rw [full]
    rfl

/-- The attempt with which the word has come round is taken for a first one. -/
theorem exists_second_absence (profile : Profile) (cause : String) :
    ∃ trace now life earlier, RunsOnClock profile 0 .initial trace now life ∧
      life.course.absences = [(now, cause), (earlier, cause)] := by
  obtain ⟨trace, now, life, runs, attempting, outcomes⟩ :=
    exists_attempting_in_vain profile cause UInt32.size
  rw [← runs.outcomes] at outcomes
  have length : life.course.outcomes.length = UInt32.size := by
    simpa using congrArg List.length outcomes
  obtain ⟨⟨earlier, first⟩, last, same⟩ : ∃ ended, life.course.outcomes.getLast? = some ended ∧
      ended.2 = .unreachable cause := by
    have last := congrArg List.getLast? outcomes
    rw [List.getLast?_map, List.getLast?_replicate, if_neg (by decide)] at last
    exact Option.map_eq_some_iff.mp last
  obtain rfl := same
  have ended := runs.happens (.move (.attemptEnds (.unreachable cause)) (if_pos attempting))
  refine ⟨_, now, _, earlier, ended, ?_⟩
  rw [ended.absences, course_endAttempt]
  change absencesOf ((now, .unreachable cause) :: life.course.outcomes) = _
  rw [absencesOf, length, if_pos (Nat.dvd_refl _), absencesOf_of_length_le (Nat.le_of_eq length),
    last]
  rfl

end Life
end Agent
end AgentCohort
