import AgentCohort.Proofs.Agent.Consistency

/-!
# Requests to stop before the start

An agent that is asked to stop before anybody starts it remembers that.  Nothing of it can be
seen until the agent is started, and the start goes on as usual.  But then the agent ends by
itself, while an agent that nobody asks to stop does not.

What brings an agent that is to stop nearer to its end is counted.  Each move that it makes on
its own lowers the count, and such a move is possible as long as it has not ended, at the
latest when the time for draining is over.
-/

namespace AgentCohort
namespace Agent

/-- Whether an agent makes a move on its own, without the orchestrator. -/
def Move.isOwn : Move → Bool
  | .attemptEnds _ => false
  | .begin | .retry | .noticeStop | .closeListener _ | .serverEnds _ | .drained | .abort => true

/-- Whether others can see a deed of an agent. -/
def Deed.isSeen : Deed → Bool
  | .status _ | .attempt .. | .answer .. => true
  | .outcome _ | .notice _ => false

/-- Number of moves that a server makes until it is gone. -/
def ServerState.remaining : ServerState → Nat
  | .listening _ => 2
  | .closing _ => 1
  | .absent | .closed => 0

theorem ServerState.remaining_pos {state : ServerState} (present : state.isGone = false) :
    0 < state.remaining := by
  cases state with
  | absent | closed => cases present
  | listening held => exact Nat.two_pos
  | closing held => exact Nat.one_pos

/-- Number of moves that an agent makes on its own, at most, until it has ended, its servers
apart. -/
def Stage.remaining : Stage → Nat
  | .spawned | .pausing _ => 4
  | .attempting | .serving => 3
  | .draining .messages _ => 2
  | .draining .userInterface _ => 1
  | .idle | .ended => 0

namespace Life

/-- What others have seen of an agent, the newest first. -/
def seen (life : Life) : List Deed :=
  (life.journal.map Prod.snd).filter Deed.isSeen

/-- An agent that is asked to stop, again and again, before anybody starts it. -/
def stoppedEarly (times : List Nat) : Life :=
  times.foldl (fun life now => life.requestStop now) .initial

/-- Number of moves that an agent makes on its own, at most, until it has ended. -/
def remaining (life : Life) : Nat :=
  life.stage.remaining + life.messageServer.remaining + life.uiServer.remaining

/-- What others have seen of an agent tells of its status. -/
theorem Sound.status_eq_seen {life : Life} (sound : life.Sound) :
    life.status = (life.seen.findSome? Deed.status?).getD .created := by
  have told (journal : List (Nat × Deed)) : statusAfter journal =
      (((journal.map Prod.snd).filter Deed.isSeen).findSome? Deed.status?).getD .created := by
    induction journal with
    | nil => rfl
    | cons entry older inductionHypothesis =>
        obtain ⟨time, deed⟩ := entry
        rw [statusAfter, inductionHypothesis]
        cases deed <;> rfl
  rw [← sound.status]
  exact told life.journal

/-! ## The start -/

theorem foldl_requestStop_of_asked
    {life : Life}
    (asked : life.isStopRequested = true)
    (times : List Nat) :
    times.foldl (fun life now => life.requestStop now) life = life := by
  induction times with
  | nil => rfl
  | cons now times inductionHypothesis =>
      have unchanged : life.requestStop now = life := by
        unfold requestStop
        rw [if_pos asked]
      rw [List.foldl_cons, unchanged]
      exact inductionHypothesis

/-- Only the first request leaves a trace, which nobody sees. -/
theorem exists_stoppedEarly
    {times : List Nat}
    (asked : times ≠ []) :
    ∃ now, stoppedEarly times =
      { initial with
        isStopRequested := true
        journal := [(now, .notice .stopRequested)] } := by
  cases times with
  | nil => exact absurd rfl asked
  | cons now times => exact ⟨now, foldl_requestStop_of_asked rfl times⟩

theorem runs_requests
    {profile : Profile}
    {first life : Life}
    {trace : List Happening}
    (runs : Runs profile first trace life)
    (times : List Nat) :
    Runs profile first (List.replicate times.length .stop ++ trace)
      (times.foldl (fun life now => life.requestStop now) life) := by
  induction times generalizing life trace with
  | nil => exact runs
  | cons now times inductionHypothesis =>
      have later := inductionHypothesis (runs.cons (.stop now))
      rw [List.length_cons, List.replicate_succ', List.append_assoc]
      exact later

/-! ## The way to the end -/

theorem remaining_setServer_lt
    {server : Server}
    {state : ServerState}
    {life : Life}
    (fewer : state.remaining < (life.server server).remaining) :
    (life.setServer server state).remaining < life.remaining := by
  cases server with
  | messages => exact Nat.add_lt_add_right (Nat.add_lt_add_left fewer _) _
  | userInterface => exact Nat.add_lt_add_left fewer _

/-- The agent does something else and keeps its servers. -/
theorem remaining_lt_of_stage
    {life next : Life}
    (fewer : next.stage.remaining < life.stage.remaining)
    (messageServer : next.messageServer = life.messageServer)
    (uiServer : next.uiServer = life.uiServer) :
    next.remaining < life.remaining := by
  unfold remaining
  rw [messageServer, uiServer]
  exact Nat.add_lt_add_right (Nat.add_lt_add_right fewer _) _

theorem remaining_afterDraining_lt
    {life : Life}
    {server : Server}
    {deadline : Nat}
    (draining : life.stage = .draining server deadline)
    (now : Nat)
    (settings : AgentSettings) :
    (life.afterDraining now settings server).remaining < life.remaining := by
  have finished (busy : 0 < life.stage.remaining) :
      { (life.log now .stopped).finish now with stage := .ended }.remaining < life.remaining := by
    obtain ⟨journal, same⟩ := exists_setStatus now .stopped (life.log now .stopped)
    simp only [finish, same]
    exact remaining_lt_of_stage busy rfl rfl
  unfold afterDraining
  split
  · refine finished ?_
    rw [draining]
    exact Nat.two_pos
  · refine finished ?_
    rw [draining]
    exact Nat.one_pos
  · refine remaining_lt_of_stage ?_ rfl rfl
    rw [draining]
    exact Nat.one_lt_two

/-- Each move that an agent makes on its own brings it nearer to its end. -/
theorem remaining_lt_of_step?
    {now : Nat}
    {profile : Profile}
    {move : Move}
    {life next : Life}
    (own : move.isOwn = true)
    (possible : life.step? now profile move = some next) :
    next.remaining < life.remaining := by
  cases move with
  | attemptEnds outcome => cases own
  | begin =>
      simp only [step?, Option.ite_none_right_eq_some, Option.some.injEq] at possible
      obtain ⟨stage, rfl⟩ := possible
      refine remaining_lt_of_stage ?_ rfl rfl
      rw [stage]
      exact Nat.lt_succ_self 3
  | retry =>
      simp only [step?] at possible
      split at possible
      · rename_i stage
        simp only [Option.ite_none_right_eq_some, Option.some.injEq] at possible
        obtain ⟨_, rfl⟩ := possible
        refine remaining_lt_of_stage ?_ rfl rfl
        rw [stage]
        exact Nat.lt_succ_self 3
      · cases possible
  | noticeStop =>
      simp only [step?, Option.ite_none_right_eq_some, Option.some.injEq] at possible
      obtain ⟨⟨_, interruptible⟩, rfl⟩ := possible
      obtain ⟨journal, same⟩ := exists_setStatus_announced now .stopping life
      rw [same]
      refine remaining_lt_of_stage ?_ rfl rfl
      change 2 < life.stage.remaining
      cases stage : life.stage with
      | spawned | attempting | pausing | serving => simp [Stage.remaining]
      | idle | draining | ended => simp [isInterruptible, stage] at interruptible
  | closeListener server =>
      simp only [step?] at possible
      split at possible
      · rename_i listening
        simp only [Option.ite_none_right_eq_some, Option.some.injEq] at possible
        obtain ⟨_, rfl⟩ := possible
        refine remaining_setServer_lt ?_
        rw [listening]
        exact Nat.one_lt_two
      all_goals cases possible
  | serverEnds server =>
      simp only [step?, Option.ite_none_right_eq_some, Option.some.injEq] at possible
      obtain ⟨closing, rfl⟩ := possible
      refine remaining_setServer_lt ?_
      rw [closing]
      exact Nat.one_pos
  | drained =>
      simp only [step?] at possible
      split at possible
      · rename_i draining
        simp only [Option.ite_none_right_eq_some, Option.some.injEq] at possible
        obtain ⟨_, rfl⟩ := possible
        exact remaining_afterDraining_lt draining now profile.settings
      · cases possible
  | abort =>
      simp only [step?] at possible
      split at possible
      · rename_i server deadline draining
        simp only [Option.ite_none_right_eq_some, Option.some.injEq, Bool.and_eq_true,
          Bool.not_eq_true'] at possible
        obtain ⟨⟨present, _⟩, rfl⟩ := possible
        let logged := life.log now (.aborting server profile.settings.stopGrace)
        have same : logged.server server = life.server server := by cases server <;> rfl
        have closed : (logged.setServer server .closed).remaining < logged.remaining := by
          refine remaining_setServer_lt ?_
          rw [same]
          exact ServerState.remaining_pos present
        have ended := remaining_afterDraining_lt
          ((stage_setServer server .closed logged).trans draining) now profile.settings
        exact Nat.lt_trans ended closed
      · cases possible

/-- An agent that is to stop can move on its own as long as it has not ended, at the latest
when the time for draining is over. -/
theorem exists_own_step?
    {life : Life}
    (asked : life.isStopRequested = true)
    (started : life.stage ≠ .idle)
    (profile : Profile) :
    life.stage = .ended ∨ ∃ deadline, ∀ now, deadline ≤ now →
      ∃ move next, move.isOwn = true ∧ life.step? now profile move = some next := by
  have notices (interruptible : life.isInterruptible = true) :
      ∃ deadline, ∀ now, deadline ≤ now →
        ∃ move next, move.isOwn = true ∧ life.step? now profile move = some next := by
    refine ⟨0, fun now _ => ⟨.noticeStop, ?_⟩⟩
    simp [Move.isOwn, step?, asked, interruptible]
  cases stage : life.stage with
  | idle => exact absurd stage started
  | ended => exact .inl rfl
  | spawned | attempting | pausing | serving =>
      exact .inr (notices (by simp [isInterruptible, stage]))
  | draining server deadline =>
      refine .inr ⟨deadline, fun now late => ?_⟩
      cases gone : (life.server server).isGone with
      | true =>
          refine ⟨.drained, ?_⟩
          simp [Move.isOwn, step?, stage, gone]
      | false =>
          refine ⟨.abort, ?_⟩
          simp [Move.isOwn, step?, stage, gone, late]

/-- An agent that ends by itself. -/
structure EndsAlone (profile : Profile) (life : Life) : Prop where
  /-- Each move that it makes on its own brings it nearer to its end. -/
  nearer : ∀ now move next, move.isOwn = true → life.step? now profile move = some next →
    next.remaining < life.remaining
  /-- Such a move is possible, at the latest from some time on, if it has not ended. -/
  goesOn : life.stage = .ended ∨ ∃ deadline, ∀ now, deadline ≤ now →
    ∃ move next, move.isOwn = true ∧ life.step? now profile move = some next
  /-- Once it has ended, it is marked as stopped, and those who wait for it have been told. -/
  stopped : life.stage = .ended → life.status = .stopped ∧ life.isDone = true

/-! ## Agents that nobody asks to stop -/

/-- Nobody has asked the agent to stop, and it goes about its work. -/
structure Undisturbed (life : Life) : Prop where
  /-- It has not been asked. -/
  asked : life.isStopRequested = false
  /-- It works. -/
  works : life.isInterruptible = true

namespace Undisturbed

variable {profile : Profile}
variable {life next : Life}

theorem move
    {now : Nat}
    (undisturbed : life.Undisturbed)
    (kind : MoveKind now profile life next) :
    next.Undisturbed := by
  have draining {server : Server} {deadline : Nat} :
      life.stage ≠ .draining server deadline := by
    intro stage
    have works := undisturbed.works
    simp [isInterruptible, stage] at works
  refine ⟨kind.keeps.isStopRequested.trans undisturbed.asked, ?_⟩
  cases kind with
  | begins stage | retries stage => rfl
  | attemptEnds outcome stage =>
      unfold isInterruptible
      rw [stage_endAttempt]
      cases outcome.isSuccess <;> rfl
  | noticesStop deadline asked interruptible =>
      rw [undisturbed.asked] at asked
      cases asked
  | changesServer server state =>
      unfold isInterruptible
      rw [stage_setServer]
      exact undisturbed.works
  | drains stage | aborts stage => exact absurd stage draining

theorem does
    {happening : Happening}
    (undisturbed : life.Undisturbed)
    (sound : life.Sound)
    (other : happening.asksToStop = false)
    (does : Does profile life happening next) :
    next.Undisturbed := by
  cases does with
  | start now bindFailure? =>
      have called : life.isStartCalled = true := by
        cases called : life.isStartCalled with
        | true => rfl
        | false =>
            have works := undisturbed.works
            simp [isInterruptible, (sound.of_not_started called).1] at works
      simp only [start, called, if_true]
      exact undisturbed
  | stop now => cases other
  | join joinable => exact undisturbed
  | answer now clock server request =>
      unfold answer
      cases reaction : Service.react profile.extract (life.snapshot clock profile.blueprint)
        server request with
      | respond response => exact ⟨undisturbed.asked, undisturbed.works⟩
      | accept message =>
          rw [reaction] at other
          cases message with
          | stop => cases other
          | ping | other => exact ⟨undisturbed.asked, undisturbed.works⟩
  | hold server => cases server <;> exact ⟨undisturbed.asked, undisturbed.works⟩
  | release server released => cases server <;> exact ⟨undisturbed.asked, undisturbed.works⟩
  | move now move possible => exact undisturbed.move (moveKind_of_step? possible)

end Undisturbed

theorem Runs.undisturbed
    {profile : Profile}
    {first life : Life}
    {trace : List Happening}
    (runs : Runs profile first trace life)
    (sound : first.Sound)
    (undisturbed : first.Undisturbed)
    (unasked : ∀ happening ∈ trace, happening.asksToStop = false) :
    life.Sound ∧ life.Undisturbed := by
  induction runs with
  | nil => exact ⟨sound, undisturbed⟩
  | cons _ does inductionHypothesis =>
      obtain ⟨sound, undisturbed⟩ := inductionHypothesis fun happening older =>
        unasked happening (List.mem_cons_of_mem _ older)
      refine ⟨?_, undisturbed.does sound (unasked _ List.mem_cons_self) does⟩
      rcases does.happens with rfl | happens
      · exact sound
      · exact happens.sound sound

/-- It waits for the orchestrator or has been accepted, and it does not end. -/
theorem Undisturbed.status
    {life : Life}
    (undisturbed : life.Undisturbed)
    (sound : life.Sound) :
    (life.status = .registering ∨ life.status = .running) ∧ life.isOver = false := by
  have unstopped : life.status ≠ .stopping := by
    intro stopping
    have asked := sound.asked stopping
    rw [undisturbed.asked] at asked
    cases asked
  have permits := sound.permits
  have works := undisturbed.works
  cases stage : life.stage with
  | idle | draining | ended => simp [isInterruptible, stage] at works
  | spawned | attempting | pausing =>
      rw [stage] at permits
      exact ⟨.inl (permits.2.resolve_right unstopped), by simp [isOver, stage]⟩
  | serving =>
      rw [stage] at permits
      exact ⟨.inr (permits.2.resolve_right unstopped), by simp [isOver, stage]⟩

/-! ## Both kinds of agents -/

/-- What requests to stop before the start lead to. -/
structure RemembersStop
    (profile : Profile)
    (times : List Nat)
    (now : Nat)
    (bindFailure? : Option Failure) : Prop where
  /-- They do not change the status. -/
  created : (stoppedEarly times).status = .created
  /-- The start succeeds or fails as it does without them. -/
  outcome : ((stoppedEarly times).start now profile.blueprint bindFailure?).2 =
    (initial.start now profile.blueprint bindFailure?).2
  /-- Nobody sees a difference then. -/
  seen : ((stoppedEarly times).start now profile.blueprint bindFailure?).1.seen =
    (initial.start now profile.blueprint bindFailure?).1.seen
  /-- But if the start succeeds, the agent ends by itself, whatever happens to it. -/
  endsAlone : bindFailure? = none → ∀ trace life,
    Runs profile ((stoppedEarly times).start now profile.blueprint bindFailure?).1 trace life →
      EndsAlone profile life
  /-- An agent that nobody has asked to stop does not. -/
  goesOn : bindFailure? = none → ∀ trace life,
    (∀ happening ∈ trace, happening.asksToStop = false) →
      Runs profile (initial.start now profile.blueprint bindFailure?).1 trace life →
        (life.status = .registering ∨ life.status = .running) ∧ life.isDone = false

theorem runs_started (profile : Profile) (times : List Nat) (now : Nat) :
    Runs profile .initial (.start (.ok ()) :: List.replicate times.length .stop)
      ((stoppedEarly times).start now profile.blueprint none).1 := by
  have requested : Runs profile .initial (List.replicate times.length .stop)
      (stoppedEarly times) := by
    have requests := runs_requests (.nil : Runs profile .initial [] .initial) times
    rw [List.append_nil] at requests
    exact requests
  have nobody : startOutcomes (List.replicate times.length .stop) = [] := by
    simp [startOutcomes, Happening.start?]
  have uncalled := requested.told.uncalled.mpr nobody
  have succeeded := (start_eq_ok_iff now profile.blueprint none _).mpr ⟨uncalled, rfl⟩
  have started := requested.cons (.start now none)
  rw [succeeded] at started
  exact started

/-- An agent that is started and that nobody asks to stop waits for the orchestrator or runs. -/
theorem status_of_unasked
    {profile : Profile}
    {now : Nat}
    {trace : List Happening}
    {life : Life}
    (runs : Runs profile (initial.start now profile.blueprint none).1 trace life)
    (unasked : ∀ happening ∈ trace, happening.asksToStop = false) :
    (life.status = .registering ∨ life.status = .running) ∧ life.isDone = false := by
  have first : Runs profile .initial [.start (.ok ())]
      (initial.start now profile.blueprint none).1 := runs_started profile [] now
  obtain ⟨sound, undisturbed⟩ := runs.undisturbed first.sound_and_staged.1 ⟨rfl, rfl⟩ unasked
  obtain ⟨status, running⟩ := undisturbed.status sound
  have staged := (first.trans runs).sound_and_staged.2
  exact ⟨status, staged.done.trans running⟩

/-- An agent that is asked to stop before its start is started as any other, but then it ends by
itself, which an agent that nobody asks to stop does not. -/
theorem remembersStop_of_asked
    (profile : Profile)
    {times : List Nat}
    (asked : times ≠ [])
    (now : Nat)
    (bindFailure? : Option Failure) :
    RemembersStop profile times now bindFailure? := by
  obtain ⟨first, early⟩ := exists_stoppedEarly asked
  refine {
    created := ?created
    outcome := ?outcome
    seen := ?seen
    endsAlone := ?endsAlone
    goesOn := ?goesOn }
  case created =>
    rw [early]
    rfl
  case outcome =>
    rw [early]
    cases bindFailure? <;> rfl
  case seen =>
    rw [early]
    cases bindFailure? <;> rfl
  case endsAlone =>
    rintro rfl trace life runs
    have whole := (runs_started profile times now).trans runs
    obtain ⟨sound, staged⟩ := whole.sound_and_staged
    have told := whole.told
    have stopRequested : life.isStopRequested = true := by
      refine told.asked (List.mem_append_right _ (List.mem_cons_of_mem _ ?_))
      rw [List.mem_replicate]
      exact ⟨fun none => asked (List.length_eq_zero_iff.mp none), rfl⟩
    have started : life.stage ≠ .idle := by
      refine staged.startedAt.mp (told.startedAt.mpr ?_)
      refine List.mem_filterMap.mpr ⟨.start (.ok ()), ?_, rfl⟩
      rw [List.mem_reverse]
      exact List.mem_append_right _ List.mem_cons_self
    refine ⟨fun now move next own possible => remaining_lt_of_step? own possible,
      exists_own_step? stopRequested started profile, fun ended => ?_⟩
    have gone : life.isOver = true := by simp [isOver, ended]
    exact ⟨(sound.status_of_isOver gone).2, staged.done.trans gone⟩
  case goesOn =>
    rintro rfl trace life unasked runs
    exact status_of_unasked runs unasked

theorem remembersStop_askedTwice :
    [0, 1] ≠ [] ∧ RemembersStop plainProfile [0, 1] 2 none :=
  ⟨List.cons_ne_nil 0 [1], remembersStop_of_asked plainProfile (List.cons_ne_nil 0 [1]) 2 none⟩

/-- An agent that was asked to stop before it was started has ended all by itself. -/
def endedAlone : List Happening :=
  [.move .drained, .move (.serverEnds .messages), .move (.closeListener .messages),
    .move .noticeStop]

/-- Requests to stop before the start make a difference that others see. -/
theorem not_unseen_endedAlone :
    ¬ ∀ (profile : Profile) (times : List Nat) (now : Nat) (trace : List Happening) (life : Life),
      (∀ happening ∈ trace, happening.asksToStop = false) →
        Runs profile ((stoppedEarly times).start now profile.blueprint none).1 trace life →
          ∃ unasked other, (∀ happening ∈ unasked, happening.asksToStop = false) ∧
            Runs profile (initial.start now profile.blueprint none).1 unasked other ∧
              other.seen = life.seen := by
  intro unseen
  have noticed : Runs plainProfile ((stoppedEarly [0]).start 1 plainProfile.blueprint none).1
      [.move .noticeStop] _ := .cons .nil (.move 1 .noticeStop rfl)
  have closed := (noticed.cons (.move 1 (.closeListener .messages) rfl)).cons
    (.move 1 (.serverEnds .messages) rfl)
  have ended := closed.cons (.move 1 .drained rfl)
  obtain ⟨trace, other, unasked, runs, same⟩ := unseen plainProfile [0] 1 endedAlone _
    (by decide) ended
  have stopped : other.status = .stopped := by
    have whole := (runs_started plainProfile [] 1).trans runs
    rw [whole.sound_and_staged.1.status_eq_seen, same]
    rfl
  rcases (status_of_unasked runs unasked).1 with registering | running
  · rw [stopped] at registering
    cases registering
  · rw [stopped] at running
    cases running

end Life
end Agent
end AgentCohort
