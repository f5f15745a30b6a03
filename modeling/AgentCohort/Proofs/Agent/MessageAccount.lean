import AgentCohort.Proofs.Agent.EarlyStop
import AgentCohort.Proofs.Results
import Mathlib.Algebra.GroupWithZero.Nat

/-!
# The account of messages

The counter of an agent agrees with its answers: a request is answered with the status of
accepted messages exactly if it puts a message that the extractor takes out of it, and each such
answer counts once.  Every other request leaves no trace but its answer.

An agent has been asked to stop exactly if somebody has asked it from outside or one of the
accepted messages told it so, and such a message does what the request from outside does.
-/

namespace AgentCohort
namespace Agent

open Network.Http (Request Response)

/-- Whether a request puts a message on the server for messages. -/
structure Service.Puts
    (extract : Service.Extractor)
    (server : Server)
    (request : Request)
    (message : Message) : Prop where
  /-- It goes to the server for messages. -/
  server : server = .messages
  /-- It posts something. -/
  method : request.method = "POST"
  /-- It goes to the place for messages. -/
  path : request.path = "/messages"
  /-- There is a message in it. -/
  message : extract request = .ok message

/-- Whether a request has been answered as an accepted message. -/
def Deed.isAcceptance : Deed → Bool
  | .answer _ _ code => code == Service.acceptance.status
  | .status _ | .attempt .. | .outcome _ | .notice _ => false

namespace Service

variable {extract : Extractor}

theorem receive_eq_accept_iff {request : Request} {message : Message} :
    receive extract request = .accept message ↔ extract request = .ok message := by
  unfold receive
  cases extract request <;> simp

/-- A server hands on the messages that are put on it, and nothing else. -/
theorem react_eq_accept_iff
    {snapshot : Snapshot}
    {server : Server}
    {request : Request}
    {message : Message} :
    react extract snapshot server request = .accept message ↔
      Puts extract server request message := by
  constructor
  · intro accepted
    unfold react at accepted
    cases found : Resource.find? server request.path with
    | none => simp [found] at accepted
    | some resource =>
        rw [found] at accepted
        by_cases permitted : request.method ∈ resource.methods
        · cases resource with
          | snapshot => simp [permitted] at accepted
          | inbox =>
              simp only [permitted, if_true] at accepted
              refine ⟨?_, List.mem_singleton.mp permitted, ?_, receive_eq_accept_iff.mp accepted⟩
              all_goals
                cases server with
                | messages => unfold Resource.find? at found; grind
                | userInterface => simp [Resource.find?] at found
        · simp [permitted] at accepted
  · intro puts
    obtain ⟨rfl, method, path, taken⟩ := puts
    have found : Resource.find? .messages request.path = some .inbox := by
      simp [Resource.find?, path]
    have permitted : request.method ∈ Resource.inbox.methods := by
      rw [method]
      exact List.mem_singleton_self "POST"
    unfold react
    rw [found]
    simp only [permitted, if_true]
    exact receive_eq_accept_iff.mpr taken

/-- A rejection is an error of the client, with a status of its own. -/
theorem Rejection.status_ne (rejection : Rejection) : rejection.response.status ≠ 202 := by
  cases rejection <;> simp [Rejection.response, Response.explained]

theorem status_ne_of_receive_eq_respond
    {request : Request}
    {response : Response}
    (answered : receive extract request = .respond response) :
    response.status ≠ 202 := by
  unfold receive at answered
  cases extracted : extract request with
  | ok message =>
      rw [extracted] at answered
      cases answered
  | error rejection =>
      rw [extracted] at answered
      cases answered
      exact rejection.status_ne

/-- What a server answers on its own never looks like the answer to an accepted message. -/
theorem status_ne_of_react_eq_respond
    {snapshot : Snapshot}
    {server : Server}
    {request : Request}
    {response : Response}
    (answered : react extract snapshot server request = .respond response) :
    response.status ≠ 202 := by
  unfold react at answered
  split at answered
  · cases answered
    decide
  · split at answered
    · split at answered
      · exact status_ne_of_receive_eq_respond answered
      · cases answered
        by_cases head : request.method = "HEAD" <;> simp [head, Response.valued]
    · cases answered
      change 405 ≠ 202
      decide

end Service

namespace Life

/-- Number of answers to accepted messages. -/
def acceptances (life : Life) : Nat :=
  life.journal.countP fun entry => entry.2.isAcceptance

/-! ## What has nothing to do with messages -/

/-- The agent changes in what has nothing to do with messages and requests to stop. -/
structure KeepsAccount (life next : Life) : Prop where
  /-- The counter stays. -/
  received : next.messagesReceived = life.messagesReceived
  /-- No message is answered. -/
  acceptances : next.acceptances = life.acceptances
  /-- Nobody asks the agent to stop. -/
  asked : next.isStopRequested = life.isStopRequested

namespace KeepsAccount

variable {life next last : Life}

theorem refl (life : Life) : KeepsAccount life life :=
  ⟨rfl, rfl, rfl⟩

/-- It does not matter what the agent is doing. -/
theorem copy
    (keeps : KeepsAccount life next)
    (received : last.messagesReceived = next.messagesReceived)
    (asked : last.isStopRequested = next.isStopRequested)
    (journal : last.journal = next.journal) :
    KeepsAccount life last := by
  refine ⟨received.trans keeps.received, ?_, asked.trans keeps.asked⟩
  rw [← keeps.acceptances]
  unfold Life.acceptances
  rw [journal]

theorem note
    (keeps : KeepsAccount life next)
    (now : Nat)
    {deed : Deed}
    (other : deed.isAcceptance = false) :
    KeepsAccount life (next.note now deed) := by
  refine ⟨keeps.received, ?_, keeps.asked⟩
  rw [← keeps.acceptances]
  unfold Life.acceptances Life.note
  apply List.countP_cons_of_neg
  simp [other]

theorem log (keeps : KeepsAccount life next) (now : Nat) (notice : Notice) :
    KeepsAccount life (next.log now notice) :=
  keeps.note now rfl

theorem announced (keeps : KeepsAccount life next) (now : Nat) :
    KeepsAccount life (next.announced now) := by
  unfold Life.announced
  split
  · exact keeps.log now .listening
  · exact keeps

theorem setStatus (keeps : KeepsAccount life next) (now : Nat) (status : Status) :
    KeepsAccount life (next.setStatus now status) := by
  unfold Life.setStatus
  split
  · exact keeps
  · apply note
    · exact keeps.copy rfl rfl rfl
    · rfl

theorem setServer (keeps : KeepsAccount life next) (server : Server) (state : ServerState) :
    KeepsAccount life (next.setServer server state) := by
  cases server <;> exact keeps.copy rfl rfl rfl

theorem finish (keeps : KeepsAccount life next) (now : Nat) :
    KeepsAccount life (next.finish now) :=
  (keeps.setStatus now .stopped).copy rfl rfl rfl

theorem beginAttempt (keeps : KeepsAccount life next) (now : Nat) (blueprint : Blueprint) :
    KeepsAccount life (next.beginAttempt now blueprint) := by
  apply note
  · exact keeps.copy rfl rfl rfl
  · rfl

theorem endAttempt
    (keeps : KeepsAccount life next)
    (now : Nat)
    (settings : AgentSettings)
    (outcome : Outcome) :
    KeepsAccount life (next.endAttempt now settings outcome) := by
  have noted : KeepsAccount life (next.note now (.outcome outcome)) := keeps.note now rfl
  unfold Life.endAttempt
  dsimp only
  split
  · apply log
    apply setStatus
    exact noted.copy rfl rfl rfl
  · split
    · apply log
      exact noted.copy rfl rfl rfl
    · split
      · apply log
        exact noted.copy rfl rfl rfl
      · exact noted.copy rfl rfl rfl

theorem afterDraining
    (keeps : KeepsAccount life next)
    (now : Nat)
    (settings : AgentSettings)
    (server : Server) :
    KeepsAccount life (next.afterDraining now settings server) := by
  have ended : KeepsAccount life { (next.log now .stopped).finish now with stage := .ended } :=
    ((keeps.log now .stopped).finish now).copy rfl rfl rfl
  unfold Life.afterDraining
  split
  · exact ended
  · exact ended
  · exact keeps.copy rfl rfl rfl

theorem start
    (now : Nat)
    (blueprint : Blueprint)
    (bindFailure? : Option Failure)
    (life : Life) :
    KeepsAccount life (life.start now blueprint bindFailure?).1 := by
  unfold Life.start
  split
  · exact refl life
  · cases bindFailure? with
    | some failure =>
        apply finish
        exact (refl life).copy rfl rfl rfl
    | none =>
        apply setStatus
        exact (refl life).copy rfl rfl rfl

end KeepsAccount

theorem MoveKind.keepsAccount
    {now : Nat}
    {profile : Profile}
    {life next : Life}
    (kind : MoveKind now profile life next) :
    KeepsAccount life next := by
  have same := KeepsAccount.refl life
  cases kind with
  | begins stage => exact (same.log now .listening).beginAttempt now profile.blueprint
  | retries stage => exact same.beginAttempt now profile.blueprint
  | attemptEnds outcome stage => exact same.endAttempt now profile.settings outcome
  | noticesStop deadline asked interruptible =>
      exact ((same.announced now).setStatus now .stopping).copy rfl rfl rfl
  | changesServer server state => exact same.setServer server state
  | drains stage => exact same.afterDraining now profile.settings _
  | aborts stage =>
      apply KeepsAccount.afterDraining
      exact (same.log now _).setServer _ .closed

/-! ## Messages and requests to stop -/

theorem acceptances_requestStop (now : Nat) (life : Life) :
    (life.requestStop now).acceptances = life.acceptances := by
  unfold requestStop
  split
  · rfl
  · dsimp only
    let asked := { life with isStopRequested := true }
    have logged : KeepsAccount asked (asked.log now .stopRequested) :=
      (KeepsAccount.refl asked).log now .stopRequested
    split
    · exact (logged.setStatus now .stopping).acceptances
    · exact logged.acceptances

theorem seen_note (now : Nat) (deed : Deed) (life : Life) :
    (life.note now deed).seen = (if deed.isSeen then [deed] else []) ++ life.seen := by
  unfold Life.seen Life.note
  rw [List.map_cons, List.filter_cons]
  split <;> rfl

theorem seen_setStatus (now : Nat) (status : Status) (life : Life) :
    (life.setStatus now status).seen =
      (if life.status = status then [] else [.status status]) ++ life.seen := by
  unfold Life.setStatus
  split
  · rfl
  · rw [seen_note]
    rfl

theorem status_requestStop (now : Nat) (life : Life) :
    (life.requestStop now).status =
      if life.isStopRequested = false ∧ life.status.isActive = true then .stopping
      else life.status := by
  unfold requestStop
  cases asked : life.isStopRequested with
  | true => simp
  | false =>
      cases active : life.status.isActive with
      | true => simp [Life.log, Life.note, active]
      | false => simp [Life.log, Life.note, active]

theorem seen_requestStop (now : Nat) (life : Life) :
    (life.requestStop now).seen =
      (if life.isStopRequested = false ∧ life.status.isActive = true ∧ life.status ≠ .stopping
        then [.status .stopping] else []) ++ life.seen := by
  have logged : ({ life with isStopRequested := true }.log now .stopRequested).seen = life.seen :=
    seen_note now _ _
  unfold requestStop
  cases asked : life.isStopRequested with
  | true => simp
  | false =>
      cases active : life.status.isActive with
      | true =>
          have same : ({ life with isStopRequested := true }.log now .stopRequested).status =
              life.status := rfl
          simp [same, active, seen_setStatus, logged]
      | false =>
          have same : ({ life with isStopRequested := true }.log now .stopRequested).status =
              life.status := rfl
          simp [same, active, logged]

/-- What an agent that takes a message in becomes. -/
structure Takes (now : Nat) (message : Message) (life next : Life) : Prop where
  /-- A message to stop does what a request from outside does, the counter apart. -/
  stop : message = .stop → next.seen = (life.requestStop now).seen ∧ ∃ journal, next =
    { life.requestStop now with
      messagesReceived := life.messagesReceived + 1
      journal := journal }
  /-- Any other message is counted, and that is all. -/
  other : message ≠ .stop → next =
    { life with messagesReceived := life.messagesReceived + 1 }

theorem takes_receive (now : Nat) (message : Message) (life : Life) :
    Takes now message life (life.receive now message) := by
  constructor
  · rintro rfl
    let told := { life with messagesReceived := life.messagesReceived + 1 }.log now .toldToStop
    have status : (told.requestStop now).status = (life.requestStop now).status := by
      rw [status_requestStop, status_requestStop]
      rfl
    have seen : (told.requestStop now).seen = (life.requestStop now).seen := by
      rw [seen_requestStop, seen_requestStop]
      rfl
    refine ⟨seen, (told.requestStop now).journal, ?_⟩
    obtain ⟨_, _, same⟩ := exists_requestStop now told
    obtain ⟨_, _, same'⟩ := exists_requestStop now life
    change told.requestStop now = _
    rw [same, same'] at status ⊢
    dsimp only at status ⊢
    rw [status]
    rfl
  · intro different
    cases message with
    | stop => exact absurd rfl different
    | ping | other => rfl

theorem acceptances_note (now : Nat) (deed : Deed) (life : Life) :
    (life.note now deed).acceptances = life.acceptances + deed.isAcceptance.toNat := by
  unfold Life.acceptances Life.note
  rw [List.countP_cons]
  cases deed.isAcceptance <;> rfl

theorem acceptances_receive (now : Nat) (message : Message) (life : Life) :
    (life.receive now message).acceptances = life.acceptances := by
  cases message with
  | stop =>
      let counted := { life with messagesReceived := life.messagesReceived + 1 }
      have told : KeepsAccount counted (counted.log now .toldToStop) :=
        (KeepsAccount.refl counted).log now .toldToStop
      exact (acceptances_requestStop now _).trans told.acceptances
  | ping | other => rfl

theorem isStopRequested_requestStop (now : Nat) (life : Life) :
    (life.requestStop now).isStopRequested = true := by
  obtain ⟨_, _, same⟩ := exists_requestStop now life
  rw [same]

theorem isStopRequested_receive (now : Nat) (message : Message) (life : Life) :
    (life.receive now message).isStopRequested = true ↔
      life.isStopRequested = true ∨ message = .stop := by
  cases message with
  | stop => simp [Life.receive, isStopRequested_requestStop]
  | ping | other => simp [Life.receive]

/-! ## Answers -/

/-- How an agent answers a request. -/
structure AnswersFor
    (extract : Service.Extractor)
    (now : Nat)
    (server : Server)
    (request : Request)
    (life : Life)
    (answered : Life × Response) : Prop where
  /-- Exactly the requests that put a message are answered as accepted. -/
  accepted : answered.2.status = 202 ↔ ∃ message, Service.Puts extract server request message
  /-- Such a request does what the message says, and its answer is written down. -/
  takes : ∀ message, Service.Puts extract server request message → ∃ taken,
    Takes now message life taken ∧ answered.1 = taken.note now (.answer server request 202)
  /-- All that any other request leaves is its answer. -/
  ignores : answered.2.status ≠ 202 →
    answered.1 = life.note now (.answer server request answered.2.status)

theorem answersFor_answer
    (now : Nat)
    (clock : Nat → Instant)
    (profile : Profile)
    (server : Server)
    (request : Request)
    (life : Life) :
    AnswersFor profile.extract now server request life
      (life.answer now clock profile server request) := by
  unfold Life.answer
  cases reaction : Service.react profile.extract (life.snapshot clock profile.blueprint)
    server request with
  | accept message =>
      have puts := Service.react_eq_accept_iff.mp reaction
      refine ⟨⟨fun _ => ⟨message, puts⟩, fun _ => rfl⟩, ?_, fun other => absurd rfl other⟩
      intro message' puts'
      have same : message' = message :=
        Except.ok.inj (puts'.message.symm.trans puts.message)
      rw [same]
      exact ⟨life.receive now message, takes_receive now message life, rfl⟩
  | respond response =>
      have refused := Service.status_ne_of_react_eq_respond reaction
      have none : ¬ ∃ message, Service.Puts profile.extract server request message := by
        rintro ⟨message, puts⟩
        cases reaction.symm.trans (Service.react_eq_accept_iff.mpr puts)
      refine ⟨⟨fun accepted => absurd accepted refused, fun puts => absurd puts none⟩, ?_,
        fun _ => rfl⟩
      intro message puts
      exact absurd ⟨message, puts⟩ none

/-- A request that puts a message has that message in its trace. -/
theorem Does.accepted
    {profile : Profile}
    {life : Life}
    (now : Nat)
    (clock : Nat → Instant)
    {server : Server}
    {request : Request}
    {message : Message}
    (puts : Service.Puts profile.extract server request message) :
    Does profile life (.answer server request (some message))
      (life.answer now clock profile server request).1 := by
  have does : Does profile life _ _ := .answer now clock server request
  rw [Service.react_eq_accept_iff.mpr puts] at does
  exact does

/-- Any other request has none. -/
theorem Does.ignored
    {profile : Profile}
    {life : Life}
    (now : Nat)
    (clock : Nat → Instant)
    {server : Server}
    {request : Request}
    (stray : ∀ message, ¬ Service.Puts profile.extract server request message) :
    Does profile life (.answer server request none)
      (life.answer now clock profile server request).1 := by
  have does : Does profile life _ _ := .answer now clock server request
  cases reaction : Service.react profile.extract (life.snapshot clock profile.blueprint)
    server request with
  | accept message => exact absurd (Service.react_eq_accept_iff.mp reaction) (stray message)
  | respond response =>
      rw [reaction] at does
      exact does

/-! ## The account -/

/-- The account of the messages to an agent after a trace. -/
structure AccountsForMessages
    (profile : Profile)
    (trace : List Happening)
    (life : Life) : Prop where
  /-- The counter, a word of 64 bits, holds the number of answers to accepted messages. -/
  received : life.messagesReceived = UInt64.ofNat life.acceptances
  /-- It is this number as long as the word can hold it. -/
  fits : life.acceptances < 2 ^ 64 → life.messagesReceived.toNat = life.acceptances
  /-- The agent has been asked to stop if somebody has asked it or an accepted message has
  told it so. -/
  asked : life.isStopRequested = true ↔
    .stop ∈ trace ∨ ∃ server request, .answer server request (some .stop) ∈ trace
  /-- It accepts the messages that are put on it and answers every other request without any
  other effect. -/
  answers : ∀ now clock server request, AnswersFor profile.extract now server request life
    (life.answer now clock profile server request)

/-- What a trace says about messages and what the agent knows of it. -/
structure Balanced (trace : List Happening) (life : Life) : Prop where
  /-- The counter holds the number of answers. -/
  received : life.messagesReceived = UInt64.ofNat life.acceptances
  /-- The agent knows whether the trace asks it to stop. -/
  asked : life.isStopRequested = true ↔ ∃ happening ∈ trace, happening.asksToStop = true

namespace Balanced

variable {profile : Profile}
variable {trace : List Happening}
variable {life next : Life}

/-- Something happens that has nothing to do with messages. -/
theorem keeps
    {happening : Happening}
    (balanced : Balanced trace life)
    (keeps : KeepsAccount life next)
    (other : happening.asksToStop = false) :
    Balanced (happening :: trace) next := by
  constructor
  · rw [keeps.received, keeps.acceptances]
    exact balanced.received
  · rw [keeps.asked, balanced.asked]
    simp [other]

theorem answer
    (balanced : Balanced trace life)
    (now : Nat)
    (clock : Nat → Instant)
    (server : Server)
    (request : Request) :
    Balanced
      (.answer server request
        (Service.react profile.extract (life.snapshot clock profile.blueprint) server
          request).message? :: trace)
      (life.answer now clock profile server request).1 := by
  unfold Life.answer
  cases reaction : Service.react profile.extract (life.snapshot clock profile.blueprint)
    server request with
  | respond response =>
      have refused := Service.status_ne_of_react_eq_respond reaction
      apply balanced.keeps
      · apply (KeepsAccount.refl life).note
        exact beq_eq_false_iff_ne.mpr refused
      · rfl
  | accept message =>
      constructor
      · change (life.receive now message).messagesReceived = _
        rw [acceptances_note, acceptances_receive]
        obtain ⟨_, _, _, same⟩ := exists_receive now message life
        rw [same]
        change life.messagesReceived + 1 = UInt64.ofNat (life.acceptances + 1)
        rw [balanced.received, UInt64.ofNat_add]
        rfl
      · change (life.receive now message).isStopRequested = true ↔ _
        rw [isStopRequested_receive, balanced.asked]
        cases message <;> simp [Service.Reaction.message?, Happening.asksToStop]

end Balanced

theorem Does.balanced
    {profile : Profile}
    {trace : List Happening}
    {life next : Life}
    {happening : Happening}
    (does : Does profile life happening next)
    (balanced : Balanced trace life) :
    Balanced (happening :: trace) next := by
  have same := KeepsAccount.refl life
  cases does with
  | start now bindFailure? =>
      exact balanced.keeps (.start now profile.blueprint bindFailure? life) rfl
  | stop now =>
      constructor
      · obtain ⟨_, _, kept⟩ := exists_requestStop now life
        rw [acceptances_requestStop, kept]
        exact balanced.received
      · simp [isStopRequested_requestStop, Happening.asksToStop]
  | join joinable => exact balanced.keeps same rfl
  | answer now clock server request => exact balanced.answer now clock server request
  | hold server => exact balanced.keeps (same.setServer server _) rfl
  | release server released => exact balanced.keeps (same.setServer server _) rfl
  | move now move possible =>
      exact balanced.keeps (moveKind_of_step? possible).keepsAccount rfl

theorem Runs.balanced
    {profile : Profile}
    {trace : List Happening}
    {life : Life}
    (runs : Runs profile .initial trace life) :
    Balanced trace life := by
  induction runs with
  | nil => exact ⟨rfl, by simp [initial]⟩
  | cons _ does inductionHypothesis => exact does.balanced inductionHypothesis

/-- Whatever is sent to an agent, its counter is the number of its answers to accepted
messages, which are the messages put on its server, and nothing else that is sent to it has an
effect. -/
theorem accountsForMessages_of_runs
    {profile : Profile}
    {trace : List Happening}
    {life : Life}
    (runs : Runs profile .initial trace life) :
    AccountsForMessages profile trace life := by
  have balanced := runs.balanced
  refine ⟨balanced.received, ?_, ?_, ?_⟩
  · intro small
    rw [balanced.received]
    exact UInt64.toNat_ofNat_of_lt' small
  · rw [balanced.asked]
    constructor
    · rintro ⟨happening, present, asks⟩
      cases happening with
      | stop => exact .inl present
      | answer server request message? =>
          cases message? with
          | none => cases asks
          | some message =>
              cases message with
              | stop => exact .inr ⟨server, request, present⟩
              | ping | other => cases asks
      | start outcome | join | hold server | release server | move move => cases asks
    · rintro (stopped | ⟨server, request, told⟩)
      · exact ⟨.stop, stopped, rfl⟩
      · exact ⟨_, told, rfl⟩
  · intro now clock server request
    exact answersFor_answer now clock profile server request life

/-- A message to stop. -/
def stopPost : Request :=
  ⟨"POST", "/messages", some (Network.Http.bytesOf "application/json"),
    Network.Http.bytesOf "\x7b\"type\":\"stop\"\x7d"⟩

/-- A message to stop that nobody marks as JSON. -/
def unmarkedPost : Request :=
  { stopPost with contentType? := some (Network.Http.bytesOf "text/plain") }

/-- An agent that is sent the message, unmarked at first. -/
def toldTwice : List Happening :=
  [.answer .messages stopPost (some .stop), .answer .messages unmarkedPost none,
    .start (.ok ())]

theorem accountsForMessages_toldTwice :
    ∃ life, Runs plainProfile .initial toldTwice life ∧ life.isStopRequested = true ∧
      AccountsForMessages plainProfile toldTwice life := by
  have started : Runs plainProfile .initial [.start (.ok ())] _ := .cons .nil (.start 0 none)
  have unmarked : (Service.jsonExtractor unmarkedPost).toOption = none := by decide +kernel
  have stray (message : Message) :
      ¬ Service.Puts Service.jsonExtractor .messages unmarkedPost message := by
    intro puts
    rw [puts.message] at unmarked
    cases unmarked
  have refused := started.cons (.ignored 1 (fun _ => ⟨0, 0, 0⟩) stray)
  have puts : Service.Puts Service.jsonExtractor .messages stopPost .stop :=
    ⟨rfl, rfl, by decide +kernel, eq_ok_of_toOption (by decide +kernel)⟩
  have accepted : Runs plainProfile .initial toldTwice _ :=
    refused.cons (.accepted 2 (fun _ => ⟨0, 0, 0⟩) puts)
  have accounts := accountsForMessages_of_runs accepted
  exact ⟨_, accepted, accounts.asked.mpr (.inr ⟨_, _, List.mem_cons_self⟩), accounts⟩

end Life
end Agent
end AgentCohort
