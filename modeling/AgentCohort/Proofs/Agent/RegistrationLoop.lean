import AgentCohort.Proofs.Agent.Consistency
import AgentCohort.Proofs.Agent.RegistrationCourse

/-!
# Agents that register

An agent that has been started registers again and again, a pause after every attempt that has
failed, until the orchestrator accepts it or it acts on a request to stop.  After that it sends
nothing and logs nothing about it.
-/

namespace AgentCohort
namespace Agent

/-! ## Attempts in turn -/

/-- The times of attempts and their outcomes, the newest first.  Every attempt but the first
begins a pause after the one before has failed; the newest one may be open. -/
inductive Turns (pause : Nat) : Bool → List Nat → List (Nat × Outcome) → Prop
  | none : Turns pause false [] []
  | first (time : Nat) : Turns pause true [time] []
  | ended
      {times : List Nat}
      {outcomes : List (Nat × Outcome)}
      (turns : Turns pause true times outcomes)
      (time : Nat)
      (outcome : Outcome) :
      Turns pause false times ((time, outcome) :: outcomes)
  | again
      {times : List Nat}
      {outcomes : List (Nat × Outcome)}
      {time : Nat}
      {outcome : Outcome}
      (turns : Turns pause false times ((time, outcome) :: outcomes))
      (failed : outcome.isSuccess = false) :
      Turns pause true ((time + pause) :: times) ((time, outcome) :: outcomes)

namespace Turns

variable {pause : Nat}
variable {isOpen : Bool}
variable {times : List Nat}
variable {outcomes : List (Nat × Outcome)}

theorem length_eq (turns : Turns pause isOpen times outcomes) :
    times.length = outcomes.length + isOpen.toNat := by
  induction turns with
  | none | first => rfl
  | ended _ _ _ inductionHypothesis | again _ _ inductionHypothesis =>
      simpa using inductionHypothesis

theorem eq_nil_of_closed (turns : Turns pause false times []) : times = [] := by
  cases turns
  rfl

/-- Only the newest attempt may have succeeded, and it has not if it is still open. -/
theorem failed (turns : Turns pause isOpen times outcomes) :
    (isOpen = true → ∀ ended ∈ outcomes, ended.2.isSuccess = false) ∧
      ∀ ended ∈ outcomes.tail, ended.2.isSuccess = false := by
  -- That all have failed while one is open is what the tail needs when that one ends.
  induction turns with
  | none | first => simp
  | ended _ _ _ inductionHypothesis => exact ⟨nofun, inductionHypothesis.1 rfl⟩
  | again _ failed inductionHypothesis =>
      refine ⟨fun _ => ?_, inductionHypothesis.2⟩
      exact List.forall_mem_cons.mpr ⟨failed, inductionHypothesis.2⟩

theorem countP_isSuccess (turns : Turns pause isOpen times outcomes) :
    outcomes.countP (fun ended => ended.2.isSuccess) =
      (outcomes.any fun ended => ended.2.isSuccess).toNat := by
  cases outcomes with
  | nil => rfl
  | cons newest older =>
      have failed := turns.failed.2
      have none : older.countP (fun ended => ended.2.isSuccess) = 0 :=
        List.countP_eq_zero.mpr fun ended present => by simp [failed ended present]
      have noneAny : (older.any fun ended => ended.2.isSuccess) = false :=
        List.any_eq_false.mpr fun ended present => by simp [failed ended present]
      rw [List.countP_cons, List.any_cons, none, noneAny]
      cases newest.2.isSuccess <;> rfl

end Turns

/-! ## The course of an agent that registers -/

namespace Course

/-- The course of a registration as its outcomes have made it. -/
structure Follows (profile : Profile) (isOpen : Bool) (course : Course) : Prop where
  /-- One attempt follows the other. -/
  turns : Turns profile.settings.registrationRetry.milliseconds isOpen
    (course.posts.map Prod.fst) course.outcomes
  /-- All say the same. -/
  posts : ∀ post ∈ course.posts,
    post.2 = (profile.blueprint.registrationUrl, profile.blueprint.registration)
  /-- One of them has succeeded if the agent has been accepted. -/
  isRegistered : course.isRegistered = course.outcomes.any fun ended => ended.2.isSuccess
  /-- Every refusal is logged. -/
  refusals : course.refusals = tells Outcome.refusal? course.outcomes
  /-- That the orchestrator was not there is logged at the first attempt. -/
  absences : course.outcomes.length < UInt32.size →
    course.absences = tells Outcome.absence? course.outcomes.getLast?.toList
  /-- The attempts are counted in a word. -/
  counter : course.counter = UInt32.ofNat course.posts.length

variable {profile : Profile}
variable {course : Course}

theorem follows_initial (profile : Profile) : Follows profile false Life.initial.course :=
  ⟨.none, nofun, rfl, rfl, fun _ => rfl, rfl⟩

/-- An attempt begins when it is time for it. -/
theorem Follows.begin
    {isOpen : Bool}
    {now : Nat}
    (follows : Follows profile isOpen course)
    (turns : Turns profile.settings.registrationRetry.milliseconds true
      (now :: course.posts.map Prod.fst) course.outcomes) :
    Follows profile true (course.begin now profile.blueprint) where
  turns := turns
  posts := List.forall_mem_cons.mpr ⟨rfl, follows.posts⟩
  isRegistered := follows.isRegistered
  refusals := follows.refusals
  absences := follows.absences
  counter := by
    simp only [Course.begin, follows.counter, List.length_cons, UInt32.ofNat_add]
    rfl

/-- The counter is one at the first attempt, and again whenever it has come round. -/
theorem Follows.counter_eq_one_iff_dvd (follows : Follows profile true course) :
    course.counter = 1 ↔ UInt32.size ∣ course.outcomes.length := by
  have length : course.posts.length = course.outcomes.length + 1 := by
    simpa using follows.turns.length_eq
  rw [follows.counter, length, ← UInt32.toNat_inj, UInt32.toNat_ofNat']
  change (course.outcomes.length + 1) % 4294967296 = 1 ↔ 4294967296 ∣ _
  omega

/-- The counter is one at the first attempt only, as long as it has not come round. -/
theorem Follows.counter_eq_one_iff
    (follows : Follows profile true course)
    (few : course.outcomes.length < UInt32.size) :
    course.counter = 1 ↔ course.outcomes = [] := by
  rw [follows.counter_eq_one_iff_dvd, ← List.length_eq_zero_iff]
  constructor
  · exact fun divides => Nat.eq_zero_of_dvd_of_lt divides few
  · exact fun none => none ▸ Nat.dvd_zero _

/-- The open attempt ends. -/
theorem Follows.finish
    (follows : Follows profile true course)
    (now : Nat)
    (outcome : Outcome) :
    Follows profile false (course.finish now outcome) where
  turns := follows.turns.ended now outcome
  posts := follows.posts
  isRegistered := by
    simp only [Course.finish, follows.isRegistered, List.any_cons]
    exact Bool.or_comm _ _
  refusals := by
    simp only [Course.finish, follows.refusals, tells_cons]
  absences few := by
    have fewer : course.outcomes.length + 1 < UInt32.size := few
    have fewest : course.outcomes.length < UInt32.size := by omega
    simp only [Course.finish, follows.counter_eq_one_iff fewest, follows.absences fewest]
    -- Only the first outcome of all is the last of the list and is met by a counter of one.
    cases outcomes : course.outcomes with
    | nil => simp [tells_cons]
    | cons newest older => simp [List.getLast?_cons_cons]
  counter := follows.counter

end Course

/-- What an agent that is doing something waits for, between the attempts or in one. -/
def Stage.Awaits (pause now : Nat) (isOpen : Bool) (outcomes : List (Nat × Outcome)) :
    Stage → Prop
  | .idle | .spawned => isOpen = false ∧ outcomes = []
  | .attempting => isOpen = true
  | .pausing wakeTime => isOpen = false ∧ now ≤ wakeTime ∧
      ∃ ended outcome older, outcomes = (ended, outcome) :: older ∧
        outcome.isSuccess = false ∧ wakeTime = ended + pause
  | .serving | .draining .. | .ended => True

theorem Stage.awaits_of_isEnding
    {stage : Stage}
    (ending : stage.isEnding = true)
    (pause now : Nat)
    (isOpen : Bool)
    (outcomes : List (Nat × Outcome)) :
    stage.Awaits pause now isOpen outcomes := by
  cases stage with
  | draining | ended => trivial
  | idle | spawned | attempting | pausing | serving => cases ending

namespace Life

/-- The attempts of an agent have followed one another, and it keeps to that. -/
def OnCourse (profile : Profile) (now : Nat) (life : Life) : Prop :=
  ∃ isOpen, life.course.Follows profile isOpen ∧
    life.stage.Awaits profile.settings.registrationRetry.milliseconds now isOpen
      life.course.outcomes

variable {profile : Profile}
variable {start now : Nat}
variable {life next : Life}
variable {happening : Happening}
variable {trace : List (Nat × Happening)}

theorem CourseStep.onCourse
    (step : CourseStep profile now life happening next)
    (onCourse : life.OnCourse profile now) :
    next.OnCourse profile now := by
  obtain ⟨isOpen, follows, awaits⟩ := onCourse
  cases step with
  | keeps _ _ stage course =>
      refine ⟨isOpen, ?_, ?_⟩
      · rw [course]
        exact follows
      · rw [stage, course]
        exact awaits
  | spawns _ _ idle stage course =>
      rw [idle] at awaits
      refine ⟨isOpen, ?_, ?_⟩
      · rw [course]
        exact follows
      · rw [stage, course]
        exact awaits
  | begins _ _ due stage course =>
      refine ⟨true, ?_, by rw [stage]; rfl⟩
      rw [course]
      refine follows.begin ?_
      have turns := follows.turns
      rcases due with spawned | ⟨wakeTime, due, pausing⟩
      · rw [spawned] at awaits
        obtain ⟨rfl, none⟩ := awaits
        rw [none] at turns ⊢
        rw [turns.eq_nil_of_closed]
        exact .first now
      · rw [pausing] at awaits
        obtain ⟨rfl, early, ended, outcome, older, newest, failed, rfl⟩ := awaits
        rw [newest] at turns ⊢
        -- The clock has not passed the end of the pause, and the pause is over.
        rw [Nat.le_antisymm early due]
        exact turns.again failed
  | ends outcome _ attempting stage course =>
      rw [attempting] at awaits
      obtain rfl := awaits
      refine ⟨false, ?_, ?_⟩
      · rw [course]
        exact follows.finish now outcome
      · rw [stage, course]
        cases success : outcome.isSuccess with
        | true => trivial
        | false => exact ⟨rfl, Nat.le_add_right .., now, outcome, _, rfl, success, rfl⟩
  | stops _ _ ending course =>
      refine ⟨isOpen, ?_, Stage.awaits_of_isEnding ending ..⟩
      rw [course]
      exact follows

/-- Time goes by, but not past the end of a pause. -/
theorem OnCourse.wait
    {later : Nat}
    (onCourse : life.OnCourse profile now)
    (onTime : ∀ due, life.timer? = some due → later ≤ due) :
    life.OnCourse profile later := by
  obtain ⟨isOpen, follows, awaits⟩ := onCourse
  refine ⟨isOpen, follows, ?_⟩
  unfold timer? at onTime
  cases stage : life.stage with
  | pausing wakeTime =>
      rw [stage] at awaits onTime
      obtain ⟨closed, _, newest⟩ := awaits
      exact ⟨closed, onTime wakeTime rfl, newest⟩
  | idle | spawned | attempting | serving | draining | ended =>
      rw [stage] at awaits
      exact awaits

/-- Every agent keeps to the course. -/
theorem RunsOnClock.onCourse (runs : RunsOnClock profile start .initial trace now life) :
    life.OnCourse profile now := by
  induction runs with
  | nil => exact ⟨false, Course.follows_initial profile, rfl, rfl⟩
  | happens runs does inductionHypothesis =>
      exact (does.courseStep runs.runs.sound_and_staged.1).onCourse inductionHypothesis
  | waits _ _ onTime inductionHypothesis => exact inductionHypothesis.wait onTime

/-! ## Journals and traces -/

theorem CourseStep.outcomes (step : CourseStep profile now life happening next) :
    next.course.outcomes =
      (happening.outcome?.map (now, ·)).toList ++ life.course.outcomes := by
  cases step with
  | keeps outcome? _ _ course | spawns outcome? _ _ _ course | stops outcome? _ _ course =>
      rw [course, outcome?]
      rfl
  | begins outcome? _ _ _ course =>
      rw [course, outcome?]
      rfl
  | ends outcome same _ _ course =>
      rw [course, same]
      rfl

theorem CourseStep.isEnding (step : CourseStep profile now life happening next) :
    next.stage.isEnding = (happening.actsOnStop || life.stage.isEnding) := by
  cases step with
  | keeps _ goesOn stage => rw [stage, goesOn, Bool.false_or]
  | spawns _ goesOn idle stage => rw [stage, goesOn, idle, Bool.false_or]; rfl
  | begins _ goesOn due stage =>
      rw [stage, goesOn, Bool.false_or]
      rcases due with before | ⟨_, _, before⟩ <;> rw [before] <;> rfl
  | ends outcome same attempting stage =>
      rw [stage, same, attempting]
      cases outcome.isSuccess <;> rfl
  | stops _ acted ending =>
      rcases acted with acted | ⟨_, before⟩
      · rw [ending, acted, Bool.true_or]
      · rw [ending, before, Bool.or_true]

/-- The journal tells of the attempts that have ended. -/
theorem RunsOnClock.outcomes (runs : RunsOnClock profile start .initial trace now life) :
    life.course.outcomes = tells Happening.outcome? trace := by
  induction runs with
  | nil => rfl
  | happens runs does inductionHypothesis =>
      have step := does.courseStep runs.runs.sound_and_staged.1
      rw [step.outcomes, inductionHypothesis, tells_cons]
  | waits _ _ _ inductionHypothesis => exact inductionHypothesis

/-- What the agent is doing tells whether it has acted on a request to stop. -/
theorem RunsOnClock.isEnding (runs : RunsOnClock profile start .initial trace now life) :
    life.stage.isEnding = trace.any fun entry => entry.2.actsOnStop := by
  induction runs with
  | nil => rfl
  | happens runs does inductionHypothesis =>
      have step := does.courseStep runs.runs.sound_and_staged.1
      rw [step.isEnding, inductionHypothesis, List.any_cons]
  | waits _ _ _ inductionHypothesis => exact inductionHypothesis

end Life

/-! ## The end of the attempts -/

/-- Whether an agent that is doing something no longer tries to register. -/
def Stage.isSettled : Stage → Bool
  | .serving | .draining .. | .ended => true
  | .idle | .spawned | .attempting | .pausing _ => false

theorem Stage.isSettled_of_isEnding {stage : Stage} (ending : stage.isEnding = true) :
    stage.isSettled = true := by
  cases stage with
  | draining | ended => rfl
  | idle | spawned | attempting | pausing | serving => cases ending

theorem Stage.isSettled_of_registered {stage : Stage} (permits : stage.PermitsRegistered true) :
    stage.isSettled = true := by
  cases stage with
  | serving | draining | ended => rfl
  | idle | spawned | attempting | pausing => cases permits

namespace Life

variable {profile : Profile}
variable {start now later : Nat}
variable {life next : Life}
variable {happening : Happening}
variable {trace newer : List (Nat × Happening)}

theorem CourseStep.settled
    (step : CourseStep profile now life happening next)
    (settled : life.stage.isSettled = true) :
    next.course = life.course ∧ next.stage.isSettled = true := by
  cases step with
  | keeps _ _ stage course => exact ⟨course, by rw [stage, settled]⟩
  | spawns _ _ idle =>
      rw [idle] at settled
      cases settled
  | begins _ _ due =>
      rcases due with before | ⟨_, _, before⟩
      all_goals
        rw [before] at settled
        cases settled
  | ends _ _ attempting =>
      rw [attempting] at settled
      cases settled
  | stops _ _ ending course => exact ⟨course, Stage.isSettled_of_isEnding ending⟩

/-- Nothing more happens to the registration of an agent that no longer tries. -/
theorem RunsOnClock.settled
    (runs : RunsOnClock profile now life newer later next)
    (sound : life.Sound)
    (settled : life.stage.isSettled = true) :
    next.course = life.course ∧ next.stage.isSettled = true := by
  induction runs with
  | nil => exact ⟨rfl, settled⟩
  | happens runs does inductionHypothesis =>
      obtain ⟨course, settled⟩ := inductionHypothesis
      have sound := runs.runs.invariant Life.Sound sound fun sound happens => happens.sound sound
      have step := (does.courseStep sound).settled settled
      exact ⟨step.1.trans course, step.2⟩
  | waits _ _ _ inductionHypothesis => exact inductionHypothesis

/-! ## The next attempt -/

/-- What an agent that goes on to register does next. -/
inductive NextTurn (profile : Profile) (now : Nat) (life : Life) : Prop
  /-- It begins the first attempt. -/
  | begins
      {next : Life}
      (unsent : life.course.posts = [])
      (does : DoesAt profile now life (.move .begin) next)
      (course : next.course = life.course.begin now profile.blueprint)
  /-- Its open attempt ends in any way. -/
  | ends
      (isOpen : life.course.posts.length = life.course.outcomes.length + 1)
      (does : ∀ outcome, ∃ next, DoesAt profile now life (.move (.attemptEnds outcome)) next ∧
        next.course = life.course.finish now outcome)
  /-- It begins another attempt, a pause after the newest one has ended, and neither earlier nor
  later. -/
  | retries
      {ended : Nat}
      {outcome : Outcome}
      {older : List (Nat × Outcome)}
      {next : Life}
      (newest : life.course.outcomes = (ended, outcome) :: older)
      (early : now ≤ ended + profile.settings.registrationRetry.milliseconds)
      (timer : life.timer? = some (ended + profile.settings.registrationRetry.milliseconds))
      (does : DoesAt profile (ended + profile.settings.registrationRetry.milliseconds) life
        (.move .retry) next)
      (course : next.course =
        life.course.begin (ended + profile.settings.registrationRetry.milliseconds)
          profile.blueprint)

/-- The pause between two attempts is over. -/
theorem step?_retry
    {wakeTime : Nat}
    (pausing : life.stage = .pausing wakeTime)
    (due : wakeTime ≤ now) :
    life.step? now profile .retry = some (life.beginAttempt now profile.blueprint) := by
  simp only [step?, pausing]
  exact if_pos due

/-- An agent that is neither idle nor settled goes on to register. -/
theorem OnCourse.nextTurn
    (onCourse : life.OnCourse profile now)
    (busy : life.stage ≠ .idle)
    (unsettled : life.stage.isSettled = false) :
    life.NextTurn profile now := by
  obtain ⟨isOpen, follows, awaits⟩ := onCourse
  have turns := follows.turns
  cases stage : life.stage with
  | idle => exact absurd stage busy
  | spawned =>
      rw [stage] at awaits
      obtain ⟨rfl, none⟩ := awaits
      rw [none] at turns
      have possible : life.step? now profile .begin =
          some ((life.log now .listening).beginAttempt now profile.blueprint) := if_pos stage
      refine .begins (List.map_eq_nil_iff.mp turns.eq_nil_of_closed) (.move .begin possible) ?_
      rw [course_beginAttempt, log, course_note rfl]
  | attempting =>
      rw [stage] at awaits
      obtain rfl := awaits
      refine .ends (by simpa using turns.length_eq) fun outcome => ?_
      exact ⟨_, .move (.attemptEnds outcome) (if_pos stage),
        course_endAttempt now profile.settings outcome life⟩
  | pausing wakeTime =>
      rw [stage] at awaits
      obtain ⟨_, early, ended, outcome, older, newest, _, rfl⟩ := awaits
      exact .retries newest early (by simp [timer?, stage])
        (.move .retry (step?_retry stage (Nat.le_refl _))) (course_beginAttempt ..)
  | serving | draining | ended =>
      rw [stage] at unsettled
      cases unsettled

/-! ## Every sequence of outcomes -/

/-- An open attempt may fail, and when the pause after it is over the next one may begin. -/
theorem RunsOnClock.exists_retry
    {outcome : Outcome}
    (runs : RunsOnClock profile start .initial trace now life)
    (attempting : life.stage = .attempting)
    (failed : outcome.isSuccess = false) :
    ∃ due waiting, RunsOnClock profile start .initial
        ((now, .move (.attemptEnds outcome)) :: trace) due waiting ∧
      DoesAt profile due waiting (.move .retry) (waiting.beginAttempt due profile.blueprint) ∧
      waiting.course = life.course.finish now outcome := by
  have ended := runs.happens (.move (.attemptEnds outcome) (if_pos attempting))
  have pausing := stage_endAttempt now profile.settings outcome life
  rw [failed, if_neg Bool.false_ne_true] at pausing
  have rested := ended.waits (Nat.le_add_right now _) fun due timer => by
    -- The only timer is the one of the pause.
    simp only [timer?, pausing, Option.some.injEq] at timer
    exact Nat.le_of_eq timer
  exact ⟨_, _, rested, .move .retry (step?_retry pausing (Nat.le_refl _)),
    course_endAttempt now profile.settings outcome life⟩

/-- However many attempts have failed in whatever way, an agent gets to the next one. -/
theorem exists_attempting_after
    (profile : Profile)
    {failures : List Outcome}
    (failed : ∀ outcome ∈ failures, outcome.isSuccess = false) :
    ∃ trace now life, RunsOnClock profile 0 .initial trace now life ∧
      life.stage = .attempting ∧ (tells Happening.outcome? trace).map Prod.snd = failures := by
  induction failures with
  | nil =>
      have started : RunsOnClock profile 0 .initial _ 0 _ := .happens .nil (.start none)
      exact ⟨_, _, _, started.happens (.move .begin rfl), rfl, rfl⟩
  | cons outcome older inductionHypothesis =>
      obtain ⟨failedNow, failedBefore⟩ := List.forall_mem_cons.mp failed
      obtain ⟨trace, now, life, runs, attempting, outcomes⟩ := inductionHypothesis failedBefore
      obtain ⟨due, waiting, waits, retries, _⟩ := runs.exists_retry attempting failedNow
      refine ⟨_, _, _, waits.happens retries, rfl, ?_⟩
      rw [tells_cons, tells_cons, ← outcomes]
      rfl

/-- Any outcomes can come about in turn if only the newest may be a success. -/
theorem exists_runsOnClock_of_outcomes
    (profile : Profile)
    (newest : Outcome)
    {failures : List Outcome}
    (failed : ∀ outcome ∈ failures, outcome.isSuccess = false) :
    ∃ trace now life, RunsOnClock profile 0 .initial trace now life ∧
      (tells Happening.outcome? trace).map Prod.snd = newest :: failures := by
  obtain ⟨trace, now, life, runs, attempting, outcomes⟩ := exists_attempting_after profile failed
  refine ⟨_, _, _, runs.happens (.move (.attemptEnds newest) (if_pos attempting)), ?_⟩
  rw [tells_cons, ← outcomes]
  rfl

/-! ## Agents that register in turn -/

/-- An agent that has come to a point after a trace has registered as it should. -/
structure RegistersInTurn
    (profile : Profile)
    (trace : List (Nat × Happening))
    (now : Nat)
    (life : Life) : Prop where
  /-- Its attempts follow one another, each a pause after the one before has failed. -/
  turns : ∃ isOpen, Turns profile.settings.registrationRetry.milliseconds isOpen
    (life.course.posts.map Prod.fst) (tells Happening.outcome? trace)
  /-- All of them say the same to the same address. -/
  posts : ∀ post ∈ life.course.posts, post.2 =
    (profile.blueprint.orchestrator.baseUrl ++ "/register", profile.blueprint.registration)
  /-- Its journal tells how they have ended. -/
  outcomes : life.course.outcomes = tells Happening.outcome? trace
  /-- It goes on as soon as it has been started, until it is accepted or acts on a request to
  stop. -/
  goesOn : .ok () ∈ startOutcomes (trace.map Prod.snd) → life.isRegistered = false →
    (trace.any fun entry => entry.2.actsOnStop) = false → life.NextTurn profile now
  /-- After that it sends nothing more, whatever happens. -/
  final : (life.isRegistered = true ∨ (trace.any fun entry => entry.2.actsOnStop) = true) →
    ∀ {newer : List (Nat × Happening)} {later : Nat} {next : Life},
      RunsOnClock profile now life newer later next → next.course = life.course
  /-- It is accepted by one attempt, and by no more. -/
  registered : (tells Happening.outcome? trace).countP (fun ended => ended.2.isSuccess) =
    life.isRegistered.toNat
  /-- Every refusal is logged as one warning. -/
  refusals : life.course.refusals =
    tells Outcome.refusal? (tells Happening.outcome? trace)
  /-- That the orchestrator cannot be reached is logged if the first attempt tells so. -/
  absences : life.course.absences =
    tells Outcome.absence? (tells Happening.outcome? trace).getLast?.toList

/-- Every agent registers in turn. -/
theorem registersInTurn_of_runsOnClock
    (runs : RunsOnClock profile start .initial trace now life)
    (few : (tells Happening.outcome? trace).length < UInt32.size) :
    RegistersInTurn profile trace now life := by
  obtain ⟨isOpen, follows, _⟩ := runs.onCourse
  obtain ⟨sound, staged⟩ := runs.runs.sound_and_staged
  have outcomes := runs.outcomes
  have permits := staged.registered
  refine {
    turns := ⟨isOpen, ?turns⟩
    posts := follows.posts
    outcomes := outcomes
    goesOn := ?goesOn
    final := ?final
    registered := ?registered
    refusals := ?refusals
    absences := ?absences }
  case turns =>
    rw [← outcomes]
    exact follows.turns
  case goesOn =>
    intro started unregistered unacted
    have busy := staged.startedAt.mp (runs.runs.told.startedAt.mpr started)
    refine runs.onCourse.nextTurn busy ?_
    rw [← runs.isEnding] at unacted
    rw [unregistered] at permits
    cases stage : life.stage with
    | idle | spawned | attempting | pausing => rfl
    | serving =>
        rw [stage] at permits
        cases permits
    | draining | ended =>
        rw [stage] at unacted
        cases unacted
  case final =>
    intro settles newer later next further
    have settled : life.stage.isSettled = true := by
      rcases settles with registered | acted
      · rw [registered] at permits
        exact Stage.isSettled_of_registered permits
      · rw [← runs.isEnding] at acted
        exact Stage.isSettled_of_isEnding acted
    exact (further.settled sound settled).1
  case registered =>
    rw [← outcomes, follows.turns.countP_isSuccess, ← follows.isRegistered]
    rfl
  case refusals =>
    rw [← outcomes]
    exact follows.refusals
  case absences =>
    rw [← outcomes] at few ⊢
    exact follows.absences few

/-- An agent that the orchestrator accepts at the third attempt, a second after it was refused
and two after it was not reached. -/
def acceptedThird : List (Nat × Happening) :=
  [(2020, .move (.attemptEnds (.answered 200))), (2005, .move .retry),
    (1005, .move (.attemptEnds (.answered 503))), (1000, .move .retry),
    (0, .move (.attemptEnds (.unreachable "refused"))), (0, .move .begin),
    (0, .start (.ok ()))]

theorem registersInTurn_acceptedThird :
    ∃ life, RunsOnClock plainProfile 0 .initial acceptedThird 2020 life ∧
      life.course.refusals = [(1005, 503)] ∧ life.course.absences = [(0, "refused")] ∧
      RegistersInTurn plainProfile acceptedThird 2020 life := by
  have started : RunsOnClock plainProfile 0 .initial [(0, .start (.ok ()))] 0 _ :=
    .happens .nil (.start none)
  have begun := started.happens (.move .begin rfl)
  have absent := begun.happens (.move (.attemptEnds (.unreachable "refused")) rfl)
  have again := (absent.waits (show 0 ≤ 1000 by decide) (by decide)).happens (.move .retry rfl)
  have refused := (again.waits (show 1000 ≤ 1005 by decide) nofun).happens
    (.move (.attemptEnds (.answered 503)) rfl)
  have thrice := (refused.waits (show 1005 ≤ 2005 by decide) (by decide)).happens
    (.move .retry rfl)
  have accepted : RunsOnClock plainProfile 0 .initial acceptedThird 2020 _ :=
    (thrice.waits (by decide) nofun).happens (.move (.attemptEnds (.answered 200)) rfl)
  exact ⟨_, accepted, rfl, rfl, registersInTurn_of_runsOnClock accepted (by decide)⟩

end Life
end Agent
end AgentCohort
