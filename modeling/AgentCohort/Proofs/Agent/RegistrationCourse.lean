import AgentCohort.Proofs.Agent.Clock
import AgentCohort.Proofs.Agent.Stages

/-!
# The course of a registration

What the journal of an agent tells of its attempts to register, of their outcomes and of the
lines that are logged about them, and what one happening does to that: an attempt begins, an
attempt ends, or everything stays as it is.
-/

namespace AgentCohort
namespace Agent

/-! ## What a journal tells -/

/-- Where a registration is sent, and what it says. -/
def Deed.post? : Deed → Option (String × Registration)
  | .attempt url registration => some (url, registration)
  | .status _ | .outcome _ | .answer .. | .notice _ => none

/-- How an attempt to register has ended. -/
def Deed.outcome? : Deed → Option Outcome
  | .outcome ended => some ended
  | .status _ | .attempt .. | .answer .. | .notice _ => none

/-- The status with which the orchestrator has refused the agent, by a warning in the log. -/
def Deed.refusal? : Deed → Option Nat
  | .notice (.rejected code) =>
    if (Notice.rejected code).level = .warn then some code else none
  | _ => none

/-- Why the orchestrator cannot be reached yet, by a piece of information in the log. -/
def Deed.absence? : Deed → Option String
  | .notice (.waiting cause) =>
    if (Notice.waiting cause).level = .info then some cause else none
  | _ => none

/-- Whether a deed has nothing to do with registrations. -/
def Deed.isAside (deed : Deed) : Bool :=
  deed.post?.isNone && deed.outcome?.isNone && deed.refusal?.isNone && deed.absence?.isNone

/-- What entries tell, with their times. -/
def tells (view : β → Option α) (entries : List (Nat × β)) : List (Nat × α) :=
  entries.filterMap fun entry => (view entry.2).map (entry.1, ·)

@[simp] theorem tells_nil (view : β → Option α) : tells view [] = [] := rfl

theorem tells_cons (view : β → Option α) (now : Nat) (entry : β) (older : List (Nat × β)) :
    tells view ((now, entry) :: older) =
      ((view entry).map (now, ·)).toList ++ tells view older := by
  cases told : view entry <;> simp [tells, told]

/-- All that an agent knows and tells of its registration, the newest first. -/
structure Course where
  /-- The registrations that it has sent. -/
  posts : List (Nat × String × Registration)
  /-- The outcomes of its attempts. -/
  outcomes : List (Nat × Outcome)
  /-- The warnings that it was refused. -/
  refusals : List (Nat × Nat)
  /-- The lines that say that the orchestrator cannot be reached yet. -/
  absences : List (Nat × String)
  /-- Whether it has been accepted. -/
  isRegistered : Bool
  /-- Its counter of attempts. -/
  counter : UInt32

/-- The course of the registration of an agent. -/
def Life.course (life : Life) : Course :=
  ⟨tells Deed.post? life.journal, tells Deed.outcome? life.journal,
    tells Deed.refusal? life.journal, tells Deed.absence? life.journal, life.isRegistered,
    life.attempts⟩

/-- The status with which the orchestrator refuses the agent. -/
def Outcome.refusal? : Outcome → Option Nat
  | .answered status => if Network.Http.isSuccess status then none else some status
  | .unreachable _ => none

/-- Why the orchestrator cannot be reached. -/
def Outcome.absence? : Outcome → Option String
  | .answered _ => none
  | .unreachable cause => some cause

namespace Course

/-- An attempt begins. -/
def begin (now : Nat) (blueprint : Blueprint) (course : Course) : Course :=
  { course with
    posts := (now, blueprint.registrationUrl, blueprint.registration) :: course.posts
    counter := course.counter + 1 }

/-- An attempt ends.  A refusal is always logged, an absence at the first attempt only. -/
def finish (now : Nat) (outcome : Outcome) (course : Course) : Course :=
  { course with
    outcomes := (now, outcome) :: course.outcomes
    refusals := (outcome.refusal?.map (now, ·)).toList ++ course.refusals
    absences :=
      (if course.counter = 1 then outcome.absence?.map (now, ·) else none).toList ++
        course.absences
    isRegistered := course.isRegistered || outcome.isSuccess }

end Course

namespace Life

/-! ## Small changes -/

theorem course_note
    {deed : Deed}
    (aside : deed.isAside = true)
    (now : Nat)
    (life : Life) :
    (life.note now deed).course = life.course := by
  simp only [Deed.isAside, Bool.and_eq_true, Option.isNone_iff_eq_none] at aside
  obtain ⟨⟨⟨post, outcome⟩, refusal⟩, absence⟩ := aside
  simp [course, note, tells_cons, post, outcome, refusal, absence]

@[simp] theorem course_setStatus (now : Nat) (status : Status) (life : Life) :
    (life.setStatus now status).course = life.course := by
  unfold setStatus
  split
  · rfl
  · exact course_note rfl now { life with status := status }

@[simp] theorem course_setServer (server : Server) (state : ServerState) (life : Life) :
    (life.setServer server state).course = life.course := by
  cases server <;> rfl

theorem course_announced (now : Nat) (life : Life) :
    (life.announced now).course = life.course := by
  unfold announced
  split
  · exact course_note rfl now life
  · rfl

theorem course_finish (now : Nat) (life : Life) : (life.finish now).course = life.course :=
  course_setStatus now .stopped life

theorem course_start
    (now : Nat)
    (blueprint : Blueprint)
    (bindFailure? : Option Failure)
    (life : Life) :
    (life.start now blueprint bindFailure?).1.course = life.course := by
  unfold start
  split
  · rfl
  · dsimp only
    cases bindFailure? with
    | some failure => exact course_finish now { life with isStartCalled := true }
    | none => exact course_setStatus now .registering _

theorem course_requestStop (now : Nat) (life : Life) :
    (life.requestStop now).course = life.course := by
  have logged : ({ life with isStopRequested := true }.log now .stopRequested).course =
      life.course :=
    course_note rfl now { life with isStopRequested := true }
  unfold requestStop
  dsimp only
  split
  · rfl
  · split
    · rw [course_setStatus, logged]
    · exact logged

theorem course_receive (now : Nat) (message : Message) (life : Life) :
    (life.receive now message).course = life.course := by
  cases message with
  | stop =>
      change (Life.requestStop now _).course = life.course
      rw [course_requestStop]
      exact course_note rfl now { life with messagesReceived := life.messagesReceived + 1 }
  | ping | other => rfl

theorem course_answer
    (now : Nat)
    (clock : Nat → Instant)
    (profile : Profile)
    (server : Server)
    (request : Network.Http.Request)
    (life : Life) :
    (life.answer now clock profile server request).1.course = life.course := by
  unfold answer
  split
  · exact (course_note rfl now _).trans (course_receive now _ life)
  · exact course_note rfl now life

theorem course_afterDraining
    (now : Nat)
    (settings : AgentSettings)
    (server : Server)
    (life : Life) :
    (life.afterDraining now settings server).course = life.course := by
  have finished : ({ (life.log now .stopped).finish now with stage := .ended } : Life).course =
      life.course :=
    (course_finish now (life.log now .stopped)).trans (course_note rfl now life)
  unfold afterDraining
  split
  · exact finished
  · exact finished
  · rfl

/-! ## Attempts -/

theorem course_note_attempt
    (now : Nat)
    (url : String)
    (registration : Registration)
    (life : Life) :
    (life.note now (.attempt url registration)).course =
      { life.course with posts := (now, url, registration) :: life.course.posts } :=
  rfl

theorem course_log_rejected (now : Nat) (code : Nat) (life : Life) :
    (life.log now (.rejected code)).course =
      { life.course with refusals := (now, code) :: life.course.refusals } :=
  rfl

theorem course_log_waiting (now : Nat) (cause : String) (life : Life) :
    (life.log now (.waiting cause)).course =
      { life.course with absences := (now, cause) :: life.course.absences } :=
  rfl

theorem course_beginAttempt (now : Nat) (blueprint : Blueprint) (life : Life) :
    (life.beginAttempt now blueprint).course = life.course.begin now blueprint :=
  course_note_attempt now blueprint.registrationUrl blueprint.registration _

theorem course_endAttempt
    (now : Nat)
    (settings : AgentSettings)
    (outcome : Outcome)
    (life : Life) :
    (life.endAttempt now settings outcome).course = life.course.finish now outcome := by
  unfold endAttempt
  cases outcome with
  | answered code =>
      cases success : Network.Http.isSuccess code with
      | true =>
          simp only [Outcome.isSuccess, success, if_true]
          rw [log, course_note rfl, course_setStatus]
          simp only [Course.finish, Outcome.refusal?, Outcome.absence?, Outcome.isSuccess,
            success, if_true, Option.map_none, ite_self, Option.toList_none, List.nil_append,
            Bool.or_true]
          rfl
      | false =>
          simp only [Outcome.isSuccess, success, Bool.false_eq_true, if_false,
            course_log_rejected, Course.finish, Outcome.refusal?, Outcome.absence?,
            Option.map_none, ite_self, Option.toList_none, List.nil_append, Bool.or_false]
          rfl
  | unreachable cause =>
      simp only [Outcome.isSuccess, Bool.false_eq_true, if_false, Course.finish,
        Outcome.refusal?, Outcome.absence?, Bool.or_false]
      -- The line depends on the counter, which the end of an attempt leaves alone.
      split
      · rename_i first
        have counter : life.course.counter = 1 := first
        rw [course_log_waiting, if_pos counter]
        rfl
      · rename_i later
        have counter : life.course.counter ≠ 1 := later
        rw [if_neg counter]
        rfl

end Life

/-! ## One happening -/

/-- Whether an agent that is doing something has acted on a request to stop. -/
def Stage.isEnding : Stage → Bool
  | .draining .. | .ended => true
  | .idle | .spawned | .attempting | .pausing _ | .serving => false

/-- The end of an attempt to register. -/
def Happening.outcome? : Happening → Option Outcome
  | .move (.attemptEnds outcome) => some outcome
  | _ => none

/-- Whether an agent acts on a request to stop. -/
def Happening.actsOnStop : Happening → Bool
  | .move .noticeStop => true
  | _ => false

namespace Life

/-- What one happening does to the registration of an agent. -/
inductive CourseStep (profile : Profile) (now : Nat) (life : Life) (happening : Happening) :
    Life → Prop
  | keeps
      {next : Life}
      (outcome? : happening.outcome? = none)
      (goesOn : happening.actsOnStop = false)
      (stage : next.stage = life.stage)
      (course : next.course = life.course) :
      CourseStep profile now life happening next
  | spawns
      {next : Life}
      (outcome? : happening.outcome? = none)
      (goesOn : happening.actsOnStop = false)
      (idle : life.stage = .idle)
      (stage : next.stage = .spawned)
      (course : next.course = life.course) :
      CourseStep profile now life happening next
  | begins
      {next : Life}
      (outcome? : happening.outcome? = none)
      (goesOn : happening.actsOnStop = false)
      (due : life.stage = .spawned ∨ ∃ wakeTime ≤ now, life.stage = .pausing wakeTime)
      (stage : next.stage = .attempting)
      (course : next.course = life.course.begin now profile.blueprint) :
      CourseStep profile now life happening next
  | ends
      {next : Life}
      (outcome : Outcome)
      (same : happening = .move (.attemptEnds outcome))
      (attempting : life.stage = .attempting)
      (stage : next.stage = if outcome.isSuccess then .serving
        else .pausing (now + profile.settings.registrationRetry.milliseconds))
      (course : next.course = life.course.finish now outcome) :
      CourseStep profile now life happening next
  | stops
      {next : Life}
      (outcome? : happening.outcome? = none)
      (acted : happening.actsOnStop = true ∨
        happening.actsOnStop = false ∧ life.stage.isEnding = true)
      (stage : next.stage.isEnding = true)
      (course : next.course = life.course) :
      CourseStep profile now life happening next

theorem isEnding_afterDraining
    (now : Nat)
    (settings : AgentSettings)
    (server : Server)
    (life : Life) :
    (life.afterDraining now settings server).stage.isEnding = true := by
  unfold afterDraining
  split <;> rfl

theorem courseStep_start
    {life : Life}
    (sound : life.Sound)
    (profile : Profile)
    (now : Nat)
    (bindFailure? : Option Failure) :
    CourseStep profile now life (.start (life.start now profile.blueprint bindFailure?).2)
      (life.start now profile.blueprint bindFailure?).1 := by
  have course := course_start now profile.blueprint bindFailure? life
  cases called : life.isStartCalled with
  | true => exact .keeps rfl rfl (by simp [start, called]) course
  | false =>
      cases bindFailure? with
      | some failure => exact .keeps rfl rfl (by simp [start, called, Life.finish]) course
      | none =>
          have idle := (sound.of_not_started called).1
          exact .spawns rfl rfl idle (by simp [start, called]) course

theorem courseStep_move
    {profile : Profile}
    {now : Nat}
    {move : Move}
    {life next : Life}
    (possible : life.step? now profile move = some next) :
    CourseStep profile now life (.move move) next := by
  cases move with
  | begin =>
      simp only [step?, Option.ite_none_right_eq_some, Option.some.injEq] at possible
      obtain ⟨stage, rfl⟩ := possible
      refine .begins rfl rfl (.inl stage) rfl ?_
      rw [course_beginAttempt, log, course_note rfl]
  | attemptEnds outcome =>
      simp only [step?, Option.ite_none_right_eq_some, Option.some.injEq] at possible
      obtain ⟨stage, rfl⟩ := possible
      exact .ends outcome rfl stage (stage_endAttempt now profile.settings outcome life)
        (course_endAttempt now profile.settings outcome life)
  | retry =>
      simp only [step?] at possible
      split at possible
      · rename_i wakeTime stage
        simp only [Option.ite_none_right_eq_some, Option.some.injEq] at possible
        obtain ⟨due, rfl⟩ := possible
        exact .begins rfl rfl (.inr ⟨wakeTime, due, stage⟩) rfl
          (course_beginAttempt now profile.blueprint life)
      · cases possible
  | noticeStop =>
      simp only [step?, Option.ite_none_right_eq_some, Option.some.injEq] at possible
      obtain ⟨_, rfl⟩ := possible
      exact .stops rfl (.inl rfl) rfl
        ((course_setStatus now .stopping _).trans (course_announced now life))
  | closeListener server =>
      simp only [step?] at possible
      split at possible
      · simp only [Option.ite_none_right_eq_some, Option.some.injEq] at possible
        obtain ⟨_, rfl⟩ := possible
        exact .keeps rfl rfl (stage_setServer server _ life) (course_setServer server _ life)
      all_goals cases possible
  | serverEnds server =>
      simp only [step?, Option.ite_none_right_eq_some, Option.some.injEq] at possible
      obtain ⟨_, rfl⟩ := possible
      exact .keeps rfl rfl (stage_setServer server .closed life)
        (course_setServer server .closed life)
  | drained =>
      simp only [step?] at possible
      split at possible
      · rename_i stage
        simp only [Option.ite_none_right_eq_some, Option.some.injEq] at possible
        obtain ⟨_, rfl⟩ := possible
        exact .stops rfl (.inr ⟨rfl, by rw [stage]; rfl⟩) (isEnding_afterDraining _ _ _ _)
          (course_afterDraining now profile.settings _ life)
      · cases possible
  | abort =>
      simp only [step?] at possible
      split at possible
      · rename_i stage
        simp only [Option.ite_none_right_eq_some, Option.some.injEq] at possible
        obtain ⟨_, rfl⟩ := possible
        refine .stops rfl (.inr ⟨rfl, by rw [stage]; rfl⟩) (isEnding_afterDraining _ _ _ _) ?_
        rw [course_afterDraining, course_setServer, log, course_note rfl]
      · cases possible

/-- Whatever happens is a step of one of these kinds. -/
theorem DoesAt.courseStep
    {profile : Profile}
    {now : Nat}
    {life next : Life}
    {happening : Happening}
    (does : DoesAt profile now life happening next)
    (sound : life.Sound) :
    CourseStep profile now life happening next := by
  cases does with
  | start bindFailure? => exact courseStep_start sound profile now bindFailure?
  | stop =>
      obtain ⟨_, _, same⟩ := exists_requestStop now life
      exact .keeps rfl rfl (by rw [same]) (course_requestStop now life)
  | join joinable => exact .keeps rfl rfl rfl rfl
  | answer clock server request =>
      obtain ⟨_, _, _, _, same⟩ := exists_answer now clock profile server request life
      exact .keeps rfl rfl (by rw [same]) (course_answer now clock _ server request life)
  | hold server =>
      exact .keeps rfl rfl (stage_setServer server _ life) (course_setServer server _ life)
  | release server released =>
      exact .keeps rfl rfl (stage_setServer server _ life) (course_setServer server _ life)
  | move move possible => exact courseStep_move possible

end Life
end Agent
end AgentCohort
