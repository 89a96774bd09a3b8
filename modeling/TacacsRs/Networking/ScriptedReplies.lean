import TacacsRs.Rust.Ledger
import TacacsRs.Networking.MockConnection

/-!
# Conservation of scripted replies

The two maps of a mock connection are written by the server and by its owner, in
any order. Which replies were added the actions tell, and which requests were
received the outgoing queue: a reply that was added is still there or was taken
for one request, the answered requests are recorded in their order, and the
replies taken for them are passed on in the same order.
-/

namespace TacacsRs.Networking

open Rust Messages

namespace Serving

/-- The requests received and not looked up yet. -/
def unhandled : Serving → List Packet
  | .answering request _ => [request]
  | _ => []

/-- The requests answered and not recorded yet. -/
def unrecorded : Serving → List Packet
  | .recording request _ => [request]
  | _ => []

/-- The replies taken and not passed on yet. -/
def unpassed : Serving → List Packet
  | .recording _ reply => [reply]
  | .delivering reply => [reply]
  | _ => []

end Serving

namespace MockConnection

/-- The reply that the action adds. -/
def Action.addedReplies : Action → List Packet
  | .addReply reply => [reply]
  | _ => []

namespace Event

/-- The request that is taken off the outgoing queue. -/
def receivedRequests : Event → List Packet
  | .received request => [request]
  | _ => []

/-- The requests for which a reply was looked up, found or not. -/
def handledRequests : Event → List Packet
  | .unanswered request => [request]
  | .answered request _ => [request]
  | _ => []

/-- The answered requests, each with the reply that was taken for it. -/
def answers : Event → List (Packet × Packet)
  | .answered request reply => [(request, reply)]
  | _ => []

/-- The request that is filed in `requests`. -/
def recordedRequests : Event → List Packet
  | .recorded request => [request]
  | _ => []

/-- The replies with which `send_message_to_session` was called. -/
def passedReplies : Event → List Packet
  | .passed reply => [reply]
  | _ => []

end Event

/-- The mock connection with all the events it has shown, the latest last. -/
structure Observed where
  mock : MockConnection
  events : List Event

namespace Observed

/-- A new mock connection, which has shown nothing. -/
def new : Observed := ⟨.new, []⟩

/-- A step of the mock connection, with what it shows put last. -/
def step (overflowChecks : Bool) (observed : Observed) (action : Action) : Option Observed :=
  (observed.mock.step overflowChecks action).map fun next =>
    ⟨next.1, observed.events ++ [next.2]⟩

/-- The requests for which a reply was found, each with its reply. -/
def answers (observed : Observed) : List (Packet × Packet) :=
  observed.events.flatMap Event.answers

/-- The requests for which a reply was found. -/
def answeredRequests (observed : Observed) : List Packet := observed.answers.map Prod.fst

/-- The replies that were taken out of `replies`. -/
def takenReplies (observed : Observed) : List Packet := observed.answers.map Prod.snd

/-- The requests that were filed in `requests`. -/
def recordedRequests (observed : Observed) : List Packet :=
  observed.events.flatMap Event.recordedRequests

end Observed

/-- The reply is one to the request: of the same session, and one number on. -/
def Answers (reply request : Packet) : Prop :=
  reply.header.sessionId = request.header.sessionId ∧
    reply.header.seqNo.toNat = request.header.seqNo.toNat + 1

/-- Every reply that the actions have added is in `replies` or was taken for one of the requests
received from the outgoing queue; the requests answered are recorded, and the replies taken for them
are passed on. -/
structure Conserved (actions : List Action) (observed : Observed) : Prop where
  replies : Balanced entryKey (actions.flatMap Action.addedReplies) observed.takenReplies
    observed.mock.replies.get
  handled : observed.mock.connection.sessionManager.outgoing.received =
    observed.events.flatMap Event.handledRequests ++ observed.mock.serving.unhandled
  answered : ∀ answer ∈ observed.answers, Answers answer.2 answer.1
  recorded : observed.answeredRequests =
    observed.recordedRequests ++ observed.mock.serving.unrecorded
  requests : HoldsLast entryKey observed.recordedRequests observed.mock.requests.get
  passed : observed.takenReplies =
    observed.events.flatMap Event.passedReplies ++ observed.mock.serving.unpassed
  numbered : ∀ request replySequenceNumber,
    observed.mock.serving = .answering request replySequenceNumber →
      replySequenceNumber.toNat = request.header.seqNo.toNat + 1

/-- A reply is added where none is pending, and the next request to receive has a number below
255. -/
def Scripted (observed : Observed) : Action → Prop
  | .addReply reply => observed.mock.replies.get (entryKey reply) = none
  | .receive => ∀ request ∈ observed.mock.connection.sessionManager.outgoing.queue.head?,
      request.header.seqNo.toNat < 255
  | _ => True

instance decidableScripted (observed : Observed) :
    ∀ action, Decidable (Scripted observed action)
  | .addReply reply =>
      inferInstanceAs (Decidable (observed.mock.replies.get (entryKey reply) = none))
  | .receive => inferInstanceAs (Decidable
      (∀ request ∈ observed.mock.connection.sessionManager.outgoing.queue.head?,
        request.header.seqNo.toNat < 255))
  | .run | .owner _ | .completeSession _ | .queueRequest _ _ | .takeReply | .recordRequest
  | .deliverReply | .finishSend | .dropConnection => .isTrue trivial

theorem conserved_new : Conserved [] .new where
  replies := balanced_nil
  handled := rfl
  answered := by simp [Observed.new, Observed.answers]
  recorded := rfl
  requests := holdsLast_nil
  passed := rfl
  numbered := by simp [Observed.new, new]

section Step

variable {overflowChecks : Bool} {mock next : MockConnection} {action : Action} {event : Event}

/-- What a request received gets to: it is looked up, recorded if a reply was found, and its reply
is passed on, each once and in this order. -/
structure Turned (mock : MockConnection) (event : Event) (next : MockConnection) : Prop where
  handled : mock.serving.unhandled ++ event.receivedRequests =
    event.handledRequests ++ next.serving.unhandled
  recorded : mock.serving.unrecorded ++ event.answers.map Prod.fst =
    event.recordedRequests ++ next.serving.unrecorded
  passed : mock.serving.unpassed ++ event.answers.map Prod.snd =
    event.passedReplies ++ next.serving.unpassed

theorem Scripted.seqNo_lt {events : List Event} {request : Packet} {outgoing : PacketChannel}
    (h : Scripted ⟨mock, events⟩ .receive)
    (hrecv : mock.connection.sessionManager.outgoing.recv = .received request outgoing) :
    request.header.seqNo.toNat < 255 := by
  obtain ⟨-, hqueue, -⟩ := Channel.recv_eq_received_iff.mp hrecv
  apply h request
  rw [hqueue]
  rfl

theorem Step.turned {events : List Event} (h : Step overflowChecks mock action next event)
    (hscripted : Scripted ⟨mock, events⟩ action) : Turned mock event next := by
  cases h with
  | run hserving => constructor <;> rw [hserving] <;> rfl
  | owner | completeSession | queueRequest | addReply | dropConnection =>
      constructor <;> exact List.append_nil _
  | receive request outgoing replySequenceNumber connection hreceiving =>
      constructor <;> rw [hreceiving] <;> rfl
  | overflow request outgoing connection hreceiving hrecv hpanicked =>
      obtain ⟨hok, -⟩ := Outcome.addU8_one_of_lt overflowChecks (hscripted.seqNo_lt hrecv)
      simp [hok] at hpanicked
  | closed hreceiving => constructor <;> rw [hreceiving] <;> rfl
  | unanswered request replySequenceNumber hanswering =>
      constructor <;> rw [hanswering] <;> rfl
  | answered request reply replySequenceNumber replies hanswering =>
      constructor <;> rw [hanswering] <;> rfl
  | recordRequest request reply hrecording => constructor <;> rw [hrecording] <;> rfl
  | deliverReply reply connection hdelivering =>
      constructor <;> rw [hdelivering] <;> dsimp only <;> split <;> rfl
  | finishSend connection hsending => constructor <;> rw [hsending] <;> rfl

/-- Requests are received from the outgoing queue, and from nowhere else. -/
theorem Step.received_eq (h : Step overflowChecks mock action next event) :
    next.connection.sessionManager.outgoing.received =
      mock.connection.sessionManager.outgoing.received ++ event.receivedRequests := by
  cases h with
  | run | completeSession | addReply | unanswered | answered | recordRequest =>
      exact (List.append_nil _).symm
  | owner action connection howner howned =>
      refine (howned.received_eq ?_).trans (List.append_nil _).symm
      rintro rfl
      simp [Connection.Action.byOwner] at howner
  | queueRequest index request hopen hroom =>
      exact (Channel.received_push hroom).trans (List.append_nil _).symm
  | receive request outgoing replySequenceNumber connection hreceiving hrecv hnumber htake =>
      exact htake.received_of_takeOutgoing hrecv
  | overflow request outgoing connection hreceiving hrecv hpanicked htake =>
      exact htake.received_of_takeOutgoing hrecv
  | closed => exact (List.append_nil _).symm
  | deliverReply reply connection hdelivering hdeliver =>
      exact (hdeliver.received_eq (by simp)).trans (List.append_nil _).symm
  | finishSend connection hsending hfinish =>
      exact (hfinish.received_eq (by simp)).trans (List.append_nil _).symm
  | dropConnection connection hover hdrop =>
      exact (hdrop.received_eq (by simp)).trans (List.append_nil _).symm

/-- Only the owner adds a reply, and only the server takes one. -/
theorem Step.replies_cases (h : Step overflowChecks mock action next event) :
    (next.replies = mock.replies ∧ action.addedReplies = [] ∧ event.answers = []) ∨
      (∃ reply, action = .addReply reply ∧ event = .added reply ∧
        next.replies = mock.replies.insertEntry (entryKey reply) reply) ∨
      ∃ request reply replySequenceNumber, action = .takeReply ∧ event = .answered request reply ∧
        mock.serving = .answering request replySequenceNumber ∧
        mock.replies.get (request.header.sessionId, replySequenceNumber) = some reply ∧
        next.replies.get = Function.update mock.replies.get
          (request.header.sessionId, replySequenceNumber) none := by
  cases h with
  | addReply reply => exact .inr (.inl ⟨reply, rfl, rfl, rfl⟩)
  | answered request reply replySequenceNumber replies hanswering hreply hrest =>
      exact .inr (.inr ⟨request, reply, replySequenceNumber, rfl, rfl, hanswering, hreply, hrest⟩)
  | run | owner | completeSession | queueRequest | receive | overflow | closed | unanswered
  | recordRequest | deliverReply | finishSend | dropConnection => exact .inl ⟨rfl, rfl, rfl⟩

/-- Only an answered request is recorded. -/
theorem Step.requests_cases (h : Step overflowChecks mock action next event) :
    (next.requests = mock.requests ∧ event.recordedRequests = []) ∨
      ∃ request, event = .recorded request ∧
        next.requests = mock.requests.insertEntry (entryKey request) request := by
  cases h with
  | recordRequest request => exact .inr ⟨request, rfl, rfl⟩
  | run | owner | completeSession | queueRequest | addReply | receive | overflow | closed
  | unanswered | answered | deliverReply | finishSend | dropConnection => exact .inl ⟨rfl, rfl⟩

/-- What is done and what is in hand add up to what was received, before and after a turn. -/
theorem append_of_turn {α : Type} {all done inHand new finished inHand' : List α}
    (h : all = done ++ inHand) (hturn : inHand ++ new = finished ++ inHand') :
    all ++ new = (done ++ finished) ++ inHand' := by
  rw [h, List.append_assoc, hturn, List.append_assoc]

variable {events : List Event} {actions : List Action}

theorem Conserved.numbered_step (h : Conserved actions ⟨mock, events⟩)
    (hscripted : Scripted ⟨mock, events⟩ action)
    (hstep : Step overflowChecks mock action next event) {request : Packet}
    {replySequenceNumber : UInt8}
    (hanswering : next.serving = .answering request replySequenceNumber) :
    replySequenceNumber.toNat = request.header.seqNo.toNat + 1 := by
  rcases hstep.answering_cases hanswering with hbefore | ⟨rfl, outgoing, hrecv, hnumber⟩
  · exact h.numbered request replySequenceNumber hbefore
  · obtain ⟨hok, hnext⟩ := Outcome.addU8_one_of_lt overflowChecks (hscripted.seqNo_lt hrecv)
    rw [hok, Outcome.ok.injEq] at hnumber
    rw [← hnumber, hnext]

theorem Conserved.replies_step (h : Conserved actions ⟨mock, events⟩)
    (hscripted : Scripted ⟨mock, events⟩ action)
    (hstep : Step overflowChecks mock action next event) :
    Balanced entryKey ((actions ++ [action]).flatMap Action.addedReplies)
      (Observed.takenReplies ⟨next, events ++ [event]⟩) next.replies.get := by
  have hreplies := h.replies
  simp only [Observed.takenReplies, Observed.answers, List.flatMap_append,
    List.flatMap_singleton, List.map_append] at hreplies ⊢
  rcases hstep.replies_cases with ⟨hsame, hadded, hanswers⟩ | ⟨reply, rfl, rfl, hinsert⟩ |
    ⟨request, reply, replySequenceNumber, rfl, rfl, -, hreply, hrest⟩
  · rw [hsame, hadded, hanswers]
    simpa using hreplies
  · rw [hinsert, NestedMap.get_insertEntry]
    simpa [Action.addedReplies, Event.answers] using hreplies.add hscripted
  · rw [hrest]
    simpa [Action.addedReplies, Event.answers] using hreplies.take hreply

/-- The reply that is taken lies under the key that the server has computed. -/
theorem Conserved.answered_step (h : Conserved actions ⟨mock, events⟩)
    (hstep : Step overflowChecks mock action next event) {answer : Packet × Packet}
    (hanswer : answer ∈ event.answers) : Answers answer.2 answer.1 := by
  rcases hstep.replies_cases with ⟨-, -, hanswers⟩ | ⟨reply, rfl, rfl, -⟩ |
    ⟨request, reply, replySequenceNumber, -, rfl, hanswering, hreply, -⟩
  · simp [hanswers] at hanswer
  · simp [Event.answers] at hanswer
  · obtain rfl : answer = (request, reply) := by simpa [Event.answers] using hanswer
    obtain ⟨hid, hseqNo⟩ := Prod.mk.inj (h.replies.key_eq hreply)
    refine ⟨hid, ?_⟩
    rw [hseqNo]
    exact h.numbered request replySequenceNumber hanswering

theorem Conserved.requests_step (h : Conserved actions ⟨mock, events⟩)
    (hstep : Step overflowChecks mock action next event) :
    HoldsLast entryKey (Observed.recordedRequests ⟨next, events ++ [event]⟩)
      next.requests.get := by
  simp only [Observed.recordedRequests, List.flatMap_append, List.flatMap_singleton]
  rcases hstep.requests_cases with ⟨hsame, hrecorded⟩ | ⟨request, rfl, hinsert⟩
  · rw [hsame, hrecorded, List.append_nil]
    exact h.requests
  · rw [hinsert, NestedMap.get_insertEntry]
    exact h.requests.put request

theorem Conserved.step (h : Conserved actions ⟨mock, events⟩)
    (hscripted : Scripted ⟨mock, events⟩ action)
    (hstep : Step overflowChecks mock action next event) :
    Conserved (actions ++ [action]) ⟨next, events ++ [event]⟩ := by
  have hturned := hstep.turned hscripted
  constructor
  case replies => exact h.replies_step hscripted hstep
  case handled =>
    rw [hstep.received_eq]
    simpa using append_of_turn h.handled hturned.handled
  case answered =>
    intro answer hanswer
    rw [Observed.answers, List.flatMap_append, List.mem_append] at hanswer
    rcases hanswer with hold | hnew
    · exact h.answered answer hold
    · exact h.answered_step hstep (by simpa using hnew)
  case recorded =>
    simpa [Observed.answeredRequests, Observed.answers, Observed.recordedRequests] using
      append_of_turn h.recorded hturned.recorded
  case requests => exact h.requests_step hstep
  case passed =>
    simpa [Observed.takenReplies, Observed.answers] using append_of_turn h.passed hturned.passed
  case numbered =>
    intro request replySequenceNumber hanswering
    exact h.numbered_step hscripted hstep hanswering

/-- Nothing but a reply that is passed on gets on its way to a session. -/
theorem Step.underway_cases (h : Step overflowChecks mock action next event) {packet : Packet}
    {index : Nat} (hsending : next.connection.sessionManager.sending = some (packet, index)) :
    mock.connection.sessionManager.sending = some (packet, index) ∨
      event.passedReplies = [packet] := by
  cases h with
  | run | completeSession | queueRequest | addReply | closed | unanswered | answered
  | recordRequest => exact .inl hsending
  | owner action connection howner howned =>
      refine .inl ((howned.underway_cases hsending).resolve_right ?_)
      rintro rfl
      simp [Connection.Action.byOwner] at howner
  | receive _ _ _ _ _ _ _ htake =>
      exact .inl ((htake.underway_cases hsending).resolve_right (by simp))
  | overflow _ _ _ _ _ _ htake =>
      exact .inl ((htake.underway_cases hsending).resolve_right (by simp))
  | deliverReply reply connection hdelivering hdeliver =>
      rcases hdeliver.underway_cases hsending with hbefore | hpassed
      · exact .inl hbefore
      · obtain rfl : reply = packet := by simpa using hpassed
        exact .inr rfl
  | finishSend connection _ hfinish =>
      exact .inl ((hfinish.underway_cases hsending).resolve_right (by simp))
  | dropConnection connection _ hdrop =>
      exact .inl ((hdrop.underway_cases hsending).resolve_right (by simp))

end Step

/-- What the server does next, whatever else goes on: a request without a pending reply is given
up and changes neither map, one with a reply is recorded and its reply passed on, and nothing holds
this up. Nothing else gets on its way to a session. -/
structure TakesTurns (overflowChecks : Bool) (mock : MockConnection) : Prop where
  unanswered : ∀ request replySequenceNumber,
    mock.serving = .answering request replySequenceNumber →
      mock.replies.get (request.header.sessionId, replySequenceNumber) = none →
        mock.step overflowChecks .takeReply =
          some ({ mock with serving := .receiving }, .unanswered request)
  answered : ∀ request replySequenceNumber reply,
    mock.serving = .answering request replySequenceNumber →
      mock.replies.get (request.header.sessionId, replySequenceNumber) = some reply →
        ∃ replies, mock.step overflowChecks .takeReply =
          some ({ mock with replies, serving := .recording request reply },
            .answered request reply)
  recorded : ∀ request reply, mock.serving = .recording request reply →
    ∃ next, mock.step overflowChecks .recordRequest = some (next, .recorded request)
  passed : ∀ reply, mock.serving = .delivering reply →
    ∃ next, mock.step overflowChecks .deliverReply = some (next, .passed reply) ∧
      mock.connection.step (.manage (.sendMessageToSession reply)) = some next.connection
  replies_eq : ∀ action next event, mock.step overflowChecks action = some (next, event) →
    action.addedReplies = [] → event.answers = [] → next.replies = mock.replies
  requests_eq : ∀ action next event, mock.step overflowChecks action = some (next, event) →
    event.recordedRequests = [] → next.requests = mock.requests
  sending : ∀ action next event, mock.step overflowChecks action = some (next, event) →
    ∀ packet index, next.connection.sessionManager.sending = some (packet, index) →
      mock.connection.sessionManager.sending = some (packet, index) ∨
        event.passedReplies = [packet]

section Turns

variable {overflowChecks : Bool} {mock : MockConnection}

theorem Served.exists_deliverReply (h : mock.Served) {reply : Packet}
    (hdelivering : mock.serving = .delivering reply) :
    ∃ next, mock.deliverReply = some (next, .passed reply) ∧
      mock.connection.step (.manage (.sendMessageToSession reply)) = some next.connection := by
  have hpresent : mock.connection.dropped = false :=
    h.present (by simp [hdelivering, Serving.isOver])
  have hidle : mock.connection.sessionManager.sending = none := h.idle (by simp [hdelivering])
  obtain ⟨connection, hlookup⟩ :
      ∃ connection, mock.connection.step (.manage (.sendMessageToSession reply)) =
        some connection := by
    cases hindex : mock.connection.sessionManager.duplexChannels.lookup reply.header.sessionId with
    | none => simp [Connection.step, Connection.manage, hpresent, SessionManager.Action.byOwner,
        SessionManager.step, SessionManager.sendMessageToSession, hidle, hindex]
    | some index => simp [Connection.step, Connection.manage, hpresent,
        SessionManager.Action.byOwner, SessionManager.step, SessionManager.sendMessageToSession,
        hidle, hindex]
  rw [deliverReply, hdelivering]
  dsimp only
  rw [hlookup]
  exact ⟨_, rfl, rfl⟩

theorem Served.takesTurns (h : mock.Served) : TakesTurns overflowChecks mock where
  unanswered := by
    intro request replySequenceNumber hanswering hnone
    have hremove := NestedMap.removeEntry_eq_none_iff.mpr hnone
    simp only [MockConnection.step, takeReply, hanswering, hremove]
  answered := by
    intro request replySequenceNumber reply hanswering hreply
    cases hremove : mock.replies.removeEntry (request.header.sessionId, replySequenceNumber) with
    | none =>
        rw [NestedMap.removeEntry_eq_none_iff.mp hremove] at hreply
        simp at hreply
    | some taken =>
        obtain ⟨found, replies⟩ := taken
        obtain ⟨hfound, -⟩ := NestedMap.removeEntry_eq_some hremove
        obtain rfl : found = reply := Option.some.inj (hfound.symm.trans hreply)
        refine ⟨replies, ?_⟩
        simp only [MockConnection.step, takeReply, hanswering, hremove]
  recorded := by
    intro request reply hrecording
    simp only [MockConnection.step, recordRequest, hrecording]
    exact ⟨_, rfl⟩
  passed := fun reply => h.exists_deliverReply
  replies_eq := by
    intro action next event hstep hadded hanswers
    rcases (step_eq_some hstep).replies_cases with ⟨hsame, -⟩ | ⟨reply, rfl, rfl, -⟩ |
      ⟨request, reply, replySequenceNumber, -, rfl, -⟩
    · exact hsame
    · simp [Action.addedReplies] at hadded
    · simp [Event.answers] at hanswers
  requests_eq := by
    intro action next event hstep hrecorded
    rcases (step_eq_some hstep).requests_cases with ⟨hsame, -⟩ | ⟨request, rfl, -⟩
    · exact hsame
    · simp [Event.recordedRequests] at hrecorded
  sending := fun _ _ _ hstep _ _ hsending => (step_eq_some hstep).underway_cases hsending

end Turns

theorem Observed.step_eq_some {overflowChecks : Bool} {observed next : Observed}
    {action : Action} (h : observed.step overflowChecks action = some next) :
    ∃ event, Step overflowChecks observed.mock action next.mock event ∧
      next.events = observed.events ++ [event] := by
  obtain ⟨⟨mock, event⟩, hstep, rfl⟩ := Option.map_eq_some_iff.mp h
  exact ⟨event, MockConnection.step_eq_some hstep, rfl⟩

/-- In every run in which replies are scripted one at a time for a key, and the requests received
have numbers below 255, each reply that the actions add is still there or was taken for one of the
requests taken off the queue, of the same session and one number less; the answered requests are
recorded, the latest one under each key, and the taken replies are passed on once, in this order; a
request without a pending reply changes neither map. -/
theorem scripted_replies_conserved {overflowChecks : Bool} {actions : List Action}
    {observed : Observed}
    (hscripted : Meets (Observed.step overflowChecks) Scripted .new actions)
    (hrun : Rust.run (Observed.step overflowChecks) .new actions = some observed) :
    Conserved actions observed ∧ TakesTurns overflowChecks observed.mock := by
  constructor
  · refine invariant_of_history conserved_new ?_ hscripted hrun
    rintro before mid action ⟨next, events⟩ hmid hguard hstep
    obtain ⟨event, hevent, rfl⟩ := Observed.step_eq_some hstep
    exact hmid.step hguard hevent
  · apply Served.takesTurns
    refine invariant_of_run (P := fun observed : Observed => observed.mock.Served) ?_ ?_ hrun
    · exact served_new
    intro mid action next hmid hstep
    obtain ⟨event, hevent, -⟩ := Observed.step_eq_some hstep
    exact hmid.step hevent

/-- What a session queues for `replyTo`. -/
def requestOf (sessionId : UInt32) : Packet :=
  { SessionManager.replyTo sessionId with
    header := { (SessionManager.replyTo sessionId).header with seqNo := 1 } }

/-- Two sessions are made, a reply is scripted for the first one and one for a third id; the server
takes a request of each session, answers the first one and gives up the second one. -/
def scriptedRun : List Action :=
  [.owner (.manage .createSession), .owner (.manage (.canCreateSessions 0)),
    .owner (.manage (.createChannel 0 [7])), .owner (.manage .createSession),
    .owner (.manage (.canCreateSessions 1)), .owner (.manage (.createChannel 1 [9])),
    .addReply (SessionManager.replyTo 7), .addReply (SessionManager.replyTo 8), .run,
    .queueRequest 0 (requestOf 7), .queueRequest 1 (requestOf 9),
    .receive, .takeReply, .recordRequest, .deliverReply, .finishSend, .receive, .takeReply]

theorem scripted_replies_conserved_scriptedRun :
    ∃ observed, Rust.run (Observed.step true) .new scriptedRun = some observed ∧
      (observed.answers = [(requestOf 7, SessionManager.replyTo 7)] ∧
        observed.mock.connection.sessionManager.sessions.map
          (fun session => session.channel.sent) = [[SessionManager.replyTo 7], []]) ∧
      [observed.mock.replies.get (7, 2), observed.mock.replies.get (8, 2),
        observed.mock.requests.get (7, 1), observed.mock.requests.get (9, 1)] =
          [none, some (SessionManager.replyTo 8), some (requestOf 7), none] ∧
      Conserved scriptedRun observed ∧ TakesTurns true observed.mock := by
  have hscripted : Meets (Observed.step true) Scripted .new scriptedRun := by decide +kernel
  have hanswers : (Rust.run (Observed.step true) .new scriptedRun).map (fun observed =>
      (observed.answers, observed.mock.connection.sessionManager.sessions.map fun session =>
        session.channel.sent)) =
      some ([(requestOf 7, SessionManager.replyTo 7)], [[SessionManager.replyTo 7], []]) := by
    decide +kernel
  have hmaps : (Rust.run (Observed.step true) .new scriptedRun).map (fun observed =>
      [observed.mock.replies.get (7, 2), observed.mock.replies.get (8, 2),
        observed.mock.requests.get (7, 1), observed.mock.requests.get (9, 1)]) =
      some [none, some (SessionManager.replyTo 8), some (requestOf 7), none] := by
    decide +kernel
  obtain ⟨observed, hrun, hfields⟩ := Option.map_eq_some_iff.mp hanswers
  rw [hrun, Option.map_some, Option.some.injEq] at hmaps
  exact ⟨observed, hrun, Prod.mk.inj hfields, hmaps, scripted_replies_conserved hscripted hrun⟩

end MockConnection

end TacacsRs.Networking
