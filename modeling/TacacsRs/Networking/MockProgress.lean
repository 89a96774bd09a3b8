import TacacsRs.Networking.MockTransactions

/-!
# What the mock server does by itself

The server and the calls go on until there is nothing left for them to do but to
wait for the owners. Where each session is used by one call at a time, a call
that goes on then has sent a request to which no reply was found, or it waits
behind such a call.
-/

namespace TacacsRs.Networking

open Rust Messages

/-- How many steps the server has before it with what it has in hand. -/
def Serving.remaining : Serving → Nat
  | .answering _ _ => 4
  | .recording _ _ => 3
  | .delivering _ => 2
  | .sending => 1
  | _ => 0

namespace MockConnection

/-- What needs no owner, who may start calls and give them up, and script replies. -/
def Action.isLocal : Action → Bool
  | .owner (.poll _ _ poll) => poll ≠ .abandon
  | .receive => true
  | .takeReply => true
  | .recordRequest => true
  | .deliverReply => true
  | .finishSend => true
  | _ => false

/-- How many local steps there are at most. -/
def remaining (mock : MockConnection) : Nat :=
  6 * (mock.connection.sessions.map Session.remaining).sum +
    5 * mock.connection.sessionManager.outgoing.queue.length + mock.serving.remaining

section Remaining

variable {overflowChecks : Bool} {mock next : MockConnection} {action : Action} {event : Event}

/-- The request that is taken leaves the queue. -/
theorem length_queue_of_taken {connection connection' : Connection}
    (hstep : Connection.Step connection .takeOutgoing connection') :
    connection'.sessions = connection.sessions ∧
      connection.sessionManager.outgoing.queue.length =
        connection'.sessionManager.outgoing.queue.length + 1 := by
  cases hstep with
  | takeOutgoing hopen hnonempty =>
      obtain ⟨request, hrecv⟩ := Channel.exists_recv_eq_received hnonempty
      obtain ⟨_, hqueue, -⟩ := Channel.recv_eq_received_iff.mp hrecv
      refine ⟨rfl, ?_⟩
      rw [hqueue]
      rfl

theorem Step.remaining_lt (h : Step overflowChecks mock action next event) (hserved : mock.Served)
    (hlocal : action.isLocal = true) : next.remaining < mock.remaining := by
  cases h with
  | run | completeSession | queueRequest | addReply | dropConnection =>
      simp [Action.isLocal] at hlocal
  | closed hreceiving hnone => exact absurd hnone hserved.recv_ne_closed
  | owner action connection howner howned =>
      cases howned with
      | poll index callIndex poll session polled sessionChannel duplexChannel hsession hchannel
          hpoll =>
          obtain ⟨call, hcall, hpolled⟩ := Session.poll_eq_some hpoll
          have hless := Session.remaining_lt hcall hpolled (by simpa [Action.isLocal] using hlocal)
          have hsum := sum_map_set Session.remaining hsession polled
          have hqueue : duplexChannel.sender.queue.length ≤
              mock.connection.sessionManager.outgoing.queue.length + 1 := by
            rcases hpolled.sender_cases with hsame | ⟨packet, hsend⟩
            · simp [hsame]
            · obtain ⟨-, hroom, hpush⟩ := Channel.send_eq_sent_iff.mp hsend
              simp [hpush, Channel.queue_push]
          simp only [remaining]
          omega
      | manage | start | dropSession | takeOutgoing | closeOutgoing | dropConnection =>
          simp [Action.isLocal] at hlocal
  | receive request outgoing replySequenceNumber connection hreceiving hrecv hnumber htake =>
      obtain ⟨hsessions, hqueue⟩ := length_queue_of_taken htake
      simp only [remaining, hsessions, hqueue, hreceiving, Serving.remaining]
      omega
  | overflow request outgoing connection hreceiving hrecv hpanicked htake =>
      obtain ⟨hsessions, hqueue⟩ := length_queue_of_taken htake
      have hclosed : connection.closeOutgoing.sessionManager.outgoing.queue =
          connection.sessionManager.outgoing.queue := rfl
      simp only [remaining, endServing, hclosed, hqueue, hreceiving, Serving.remaining]
      have hsame : connection.closeOutgoing.sessions = mock.connection.sessions := hsessions
      rw [hsame]
      omega
  | unanswered request replySequenceNumber hanswering
  | answered request reply replySequenceNumber replies hanswering =>
      simp [remaining, hanswering, Serving.remaining]
  | recordRequest request reply hrecording => simp [remaining, hrecording, Serving.remaining]
  | deliverReply reply connection hdelivering hdeliver =>
      simp only [remaining, hdeliver.lookup_cases.1, hdeliver.outgoing_eq_of_manage, hdelivering]
      split
      · simp [Serving.remaining]
      · simp [Serving.remaining]
  | finishSend connection hsending hfinish =>
      simp [remaining, hfinish.finishSend_cases.1, hfinish.outgoing_eq_of_manage, hsending,
        Serving.remaining]

end Remaining

/-- A local step that leaves each session to one call at a time. -/
def Allowed (observed : Observed) (action : Action) : Prop :=
  action.isLocal = true ∧ OneAtATime observed action

namespace Observed

/-- No step is left but those of the owners. -/
def Idle (overflowChecks : Bool) (observed : Observed) : Prop :=
  ∀ action, Allowed observed action → observed.step overflowChecks action = none

/-- The call waits for the reply to its own request, and none was found. -/
def WaitsInVain (observed : Observed) (index callIndex : Nat) : Prop :=
  observed.mock.connection.Waits index callIndex ∧
    ∃ request, observed.mock.connection.Wrote (index, callIndex) request ∧
      .unanswered request ∈ observed.events

/-- Every call that goes on waits in vain, or behind one that does. -/
def Settled (observed : Observed) : Prop :=
  ∀ (index callIndex : Nat) (session : Session) (call : Call),
    observed.mock.connection.sessions[index]? = some session →
      session.calls[callIndex]? = some call → call.phase.isOver = false →
        ∃ waiting, observed.WaitsInVain index waiting ∧
          (waiting = callIndex ∨ call.phase = .checkingReceiver ∨
            ∃ packet, call.phase = .sending packet)

section Idle

variable {overflowChecks : Bool} {observed : Observed} {index callIndex : Nat} {session : Session}
  {call : Call}

theorem Idle.step_ne_some (h : observed.Idle overflowChecks) {action : Action}
    {stepped : MockConnection × Event} (hallowed : Allowed observed action) :
    observed.mock.step overflowChecks action ≠ some stepped := by
  intro hstep
  have hnone := Option.map_eq_none_iff.mp (h action hallowed)
  rw [hnone] at hstep
  simp at hstep

/-- A reply on its way to a session finds the channel empty. -/
theorem exists_finishSend (hpaired : Paired observed)
    (hsending : observed.mock.serving = .sending) :
    ∃ stepped, observed.mock.step overflowChecks .finishSend = some stepped := by
  have hserved := hpaired.orderly.served
  have hregular := hpaired.orderly.regular
  obtain ⟨⟨packet, target⟩, hawaited⟩ :=
    Option.ne_none_iff_exists'.mp (hpaired.orderly.awaited hsending)
  have hindex := hregular.ordered.addressed packet target hawaited
  have hchannel := List.getElem?_eq_getElem hindex
  generalize observed.mock.connection.sessionManager.sessions[target] = sessionChannel at hchannel
  obtain ⟨session, hsession⟩ := hregular.matched.exists_session hchannel
  have hlength := (hpaired.transactions target session sessionChannel hsession hchannel).length_le
  have hempty : sessionChannel.channel.queue = [] := by
    rw [trail, trailOf, SessionManager.awaiting_self hawaited] at hlength
    simp only [List.length_append, List.length_map, List.length_singleton] at hlength
    exact List.length_eq_zero_iff.mp (by omega)
  have hroom := Channel.hasRoom_of_queue_eq_nil hempty (by decide)
  have hcan : observed.mock.connection.sessionManager.CanFinishSend :=
    ⟨packet, target, hawaited, sessionChannel, hchannel, .inr hroom⟩
  have hpresent := hserved.present (by rw [hsending]; rfl)
  rw [← Option.isSome_iff_exists]
  simp [MockConnection.step, finishSend, hsending, Connection.step, Connection.manage, hpresent,
    SessionManager.Action.byOwner, hcan.step_isSome]

theorem exists_receive (hopen :
      observed.mock.connection.sessionManager.outgoing.receiverDropped = false)
    (hreceiving : observed.mock.serving = .receiving)
    (hqueue : observed.mock.connection.sessionManager.outgoing.queue ≠ []) :
    ∃ stepped, observed.mock.step overflowChecks .receive = some stepped := by
  have hnonempty : observed.mock.connection.sessionManager.outgoing.taken <
      observed.mock.connection.sessionManager.outgoing.sent.length := by
    simpa [Channel.queue] using hqueue
  obtain ⟨packet, hrecv⟩ := Channel.exists_recv_eq_received hnonempty
  rw [← Option.isSome_iff_exists]
  simp [MockConnection.step, receive, hreceiving, hrecv, Connection.step,
    Connection.takeOutgoing, hopen]

/-- A server that is there at rest waits for the next request. -/
theorem Idle.underway_eq_nil (h : observed.Idle overflowChecks) (hpaired : Paired observed)
    (hserving : observed.mock.serving.isOver = false) :
    observed.mock.connection.sessionManager.outgoing.receiverDropped = false ∧
      observed.mock.connection.sessionManager.outgoing.queue = [] ∧
      observed.mock.connection.sessionManager.sending = none ∧ observed.mock.underway = [] := by
  have hturns : TakesTurns overflowChecks observed.mock := hpaired.orderly.served.takesTurns
  cases hphase : observed.mock.serving with
  | notStarted | ended => simp [hphase, Serving.isOver] at hserving
  | answering request replySequenceNumber =>
      cases hreply :
          observed.mock.replies.get (request.header.sessionId, replySequenceNumber) with
      | none =>
          exact absurd (hturns.unanswered request replySequenceNumber hphase hreply)
            (h.step_ne_some ⟨rfl, trivial⟩)
      | some reply =>
          obtain ⟨replies, hanswered⟩ :=
            hturns.answered request replySequenceNumber reply hphase hreply
          exact absurd hanswered (h.step_ne_some ⟨rfl, trivial⟩)
  | recording request reply =>
      obtain ⟨next, hrecorded⟩ := hturns.recorded request reply hphase
      exact absurd hrecorded (h.step_ne_some ⟨rfl, trivial⟩)
  | delivering reply =>
      obtain ⟨next, hpassed, -⟩ := hturns.passed reply hphase
      exact absurd hpassed (h.step_ne_some ⟨rfl, trivial⟩)
  | sending =>
      obtain ⟨stepped, hfinished⟩ := exists_finishSend hpaired hphase
      exact absurd hfinished (h.step_ne_some ⟨rfl, trivial⟩)
  | receiving =>
      have hopen : observed.mock.connection.sessionManager.outgoing.receiverDropped = false :=
        hpaired.orderly.opened (hpaired.orderly.served.present hserving) (by simp [hphase])
      have hempty : observed.mock.connection.sessionManager.outgoing.queue = [] := by
        by_contra hqueue
        obtain ⟨stepped, hreceived⟩ := exists_receive hopen hphase hqueue
        exact absurd hreceived (h.step_ne_some ⟨rfl, trivial⟩)
      refine ⟨hopen, hempty, hpaired.orderly.served.idle (by simp [hphase]), ?_⟩
      rw [underway, hphase, pending_of_open hopen, hempty]
      rfl

variable {sessionChannel : SessionChannel}

/-- At rest no call can be polled but one that has its packet to send. -/
theorem Idle.not_canPoll (h : observed.Idle overflowChecks)
    (hsession : observed.mock.connection.sessions[index]? = some session)
    (hchannel : observed.mock.connection.sessionManager.sessions[index]? = some sessionChannel)
    (hcall : session.calls[callIndex]? = some call)
    (hphase : ∀ packet, call.phase = .sending packet → Quiet session.calls) :
    ¬ session.CanPoll ⟨observed.mock.connection.sessionManager.outgoing, sessionChannel.channel⟩
      callIndex := by
  rintro ⟨poll, hpoll, hsome⟩
  obtain ⟨⟨polled, duplexChannel⟩, hpolled⟩ := Option.isSome_iff_exists.mp hsome
  have hallowed : Allowed observed (.owner (.poll index callIndex poll)) := by
    refine ⟨by simpa [Action.isLocal] using hpoll, ?_⟩
    cases poll with
    | send =>
        obtain ⟨found, hfound, hsent⟩ := Session.poll_eq_some hpolled
        obtain rfl := Option.some.inj (hcall.symm.trans hfound)
        rintro other hother
        obtain rfl := Option.some.inj (hsession.symm.trans hother)
        cases hsent with
        | queue packet hsending | queueClosed packet hsending => exact hphase packet hsending
    | abandon => exact absurd rfl hpoll
    | checkSender | joinRead | checkReceiver | checkComplete | draw | joinWrite | acquire
    | receive | complete => trivial
  obtain ⟨connection, hconnection⟩ : ∃ connection,
      observed.mock.connection.step (.poll index callIndex poll) = some connection := by
    simp [Connection.step, Connection.pollCall, hsession, hchannel, hpolled]
  have hstep : observed.mock.step overflowChecks (.owner (.poll index callIndex poll)) =
      some ({ observed.mock with connection }, .internal) := by
    simp [MockConnection.step, ownerStep, Connection.Action.byOwner, hconnection]
  exact h.step_ne_some hallowed hstep

/-- At rest, a call that waits for the lock waits for one that waits for a packet. -/
theorem Idle.exists_receiving (h : observed.Idle overflowChecks) (hpaired : Paired observed)
    (hsession : observed.mock.connection.sessions[index]? = some session)
    (hchannel : observed.mock.connection.sessionManager.sessions[index]? = some sessionChannel)
    (hcall : session.calls[callIndex]? = some call) {mode : LockMode}
    (hstake : call.phase.stake = .waiting mode) :
    ∃ (waiting : Nat) (holder : Call), session.calls[waiting]? = some holder ∧
      holder.phase = .receiving := by
  have htracked := hpaired.orderly.regular.ordered.tended.tracked session
    (List.mem_of_getElem? hsession)
  have hstuck (other : Nat) (hother : session.stakes other ≠ .outside) :
      ¬ session.CanPoll ⟨observed.mock.connection.sessionManager.outgoing, sessionChannel.channel⟩
        other := by
    obtain ⟨found, hfound, hstakes⟩ := Session.exists_call_of_stakes hother
    refine h.not_canPoll hsession hchannel hfound fun packet hphase => absurd ?_ hother
    rw [hstakes, hphase]
    rfl
  obtain ⟨waiting, holder, hholder, hphase, -⟩ :=
    htracked.exists_receiving hstuck ((getD_map_eq _ _ hcall).trans hstake)
  exact ⟨waiting, holder, hholder, hphase⟩

/-- At rest, a call with its request out waits for the reply that was not found. -/
theorem Idle.waitsInVain (h : observed.Idle overflowChecks) (hpaired : Paired observed)
    (hserving : observed.mock.serving.isOver = false)
    (hsession : observed.mock.connection.sessions[index]? = some session)
    (hcall : session.calls[callIndex]? = some call) (hout : call.phase.isOutstanding = true) :
    observed.WaitsInVain index callIndex := by
  obtain ⟨sessionChannel, hchannel, -⟩ :=
    hpaired.orderly.regular.ordered.registered.exists_channel hsession
  obtain ⟨hopen, -, hidle, hnone⟩ := h.underway_eq_nil hpaired hserving
  have htransaction := hpaired.transactions index session sessionChannel hsession hchannel
  have hgoing : call.phase.isOver = false := CallPhase.isOver_of_isOutstanding hout
  have hnot := h.not_canPoll hsession hchannel hcall fun packet hphase => by
    simp [hphase, CallPhase.isOutstanding] at hout
  have hstuck := Session.stuck_of_not_canPoll hcall hgoing hnot
  generalize hphase : call.phase = phase at hstuck
  cases hstuck with
  | sending | checkingReceiver => simp [hphase, CallPhase.isOutstanding] at hout
  | acquiring =>
      have hstake : call.phase.stake = .waiting .write := by
        rw [hphase]
        rfl
      obtain ⟨waiting, holder, hholder, hreceiving⟩ :=
        h.exists_receiving hpaired hsession hchannel hcall hstake
      have hother : holder.phase.isOutstanding = true := by
        rw [hreceiving]
        rfl
      obtain rfl := htransaction.unique callIndex waiting call holder hcall hholder hout hother
      obtain rfl := Option.some.inj (hcall.symm.trans hholder)
      simp [hphase] at hreceiving
  | receiving hpending =>
      have hempty : observed.mock.trail index sessionChannel = [] := by
        rw [trail, trailOf, hnone, SessionManager.awaiting_of_idle hidle,
          (Channel.recv_eq_pending_iff.mp hpending).1]
        rfl
      refine ⟨⟨session, call, sessionChannel, hsession, hcall, hphase, hchannel, hpending⟩, ?_⟩
      rcases htransaction.waiting callIndex call hcall hout hempty with hclosed | hunanswered
      · exact absurd (hopen.symm.trans hclosed) Bool.false_ne_true
      · exact hunanswered

/-- At rest, what goes on waits in vain, or behind a call that does. -/
theorem Idle.settled (h : observed.Idle overflowChecks) (hpaired : Paired observed)
    (hserving : observed.mock.serving.isOver = false) : observed.Settled := by
  intro index callIndex session call hsession hcall hgoing
  cases hout : call.phase.isOutstanding with
  | true => exact ⟨callIndex, h.waitsInVain hpaired hserving hsession hcall hout, .inl rfl⟩
  | false =>
      obtain ⟨sessionChannel, hchannel, -⟩ :=
        hpaired.orderly.regular.ordered.registered.exists_channel hsession
      by_cases hcan : session.CanPoll
          ⟨observed.mock.connection.sessionManager.outgoing, sessionChannel.channel⟩ callIndex
      · have hbusy : ¬ ∀ packet, call.phase = .sending packet → Quiet session.calls :=
          fun hquiet => h.not_canPoll hsession hchannel hcall hquiet hcan
        simp only [Quiet, not_forall] at hbusy
        obtain ⟨packet, hphase, holder, hmem, hother⟩ := hbusy
        rw [Bool.not_eq_false] at hother
        obtain ⟨waiting, hholder⟩ := List.mem_iff_getElem?.mp hmem
        exact ⟨waiting, h.waitsInVain hpaired hserving hsession hholder hother,
          .inr (.inr ⟨packet, hphase⟩)⟩
      · have hstuck := Session.stuck_of_not_canPoll hcall hgoing hcan
        generalize hphase : call.phase = phase at hstuck
        cases hstuck with
        | checkingReceiver =>
            have hstake : call.phase.stake = .waiting .read := by
              rw [hphase]
              rfl
            obtain ⟨waiting, holder, hholder, hreceiving⟩ :=
              h.exists_receiving hpaired hsession hchannel hcall hstake
            have hother : holder.phase.isOutstanding = true := by
              rw [hreceiving]
              rfl
            exact ⟨waiting, h.waitsInVain hpaired hserving hsession hholder hother,
              .inr (.inl rfl)⟩
        | sending packet hfull =>
            obtain ⟨-, hqueue, -, -⟩ := h.underway_eq_nil hpaired hserving
            exact absurd (Channel.hasRoom_of_queue_eq_nil hqueue (by decide))
              (Channel.send_eq_pending_iff.mp hfull).2
        | acquiring | receiving => simp [hphase, CallPhase.isOutstanding] at hout

end Idle

section Run

variable {overflowChecks : Bool} {observed next : Observed} {action : Action}
  {actions : List Action}

theorem step_of_allowed (hpaired : Paired observed) (hallowed : Allowed observed action)
    (hnext : observed.step overflowChecks action = some next) :
    Paired next ∧ next.mock.remaining < observed.mock.remaining := by
  obtain ⟨event, hevent, hevents⟩ := Observed.step_eq_some hnext
  obtain ⟨mock, events⟩ := next
  obtain rfl := hevents
  exact ⟨hpaired.step hallowed.2 hevent,
    hevent.remaining_lt hpaired.orderly.served hallowed.1⟩

/-- In every run in which each session is used by one call at a time and no request is queued by
hand, what happens without the owners ends after a number of steps that is known beforehand,
whatever their order. If the server is there, every call that goes on then has sent a request to
which no reply was found, or waits behind one that has. Some order leads there. -/
theorem calls_wait_only_where_no_reply_was_found
    (hguard : Meets (Observed.step overflowChecks) OneAtATime .new actions)
    (hrun : Rust.run (Observed.step overflowChecks) .new actions = some observed) :
    (∀ later final, Meets (Observed.step overflowChecks) Allowed observed later →
      Rust.run (Observed.step overflowChecks) observed later = some final →
        later.length ≤ observed.mock.remaining ∧
          (final.Idle overflowChecks → final.mock.serving.isOver = false → final.Settled)) ∧
    ∃ later final, Meets (Observed.step overflowChecks) Allowed observed later ∧
      Rust.run (Observed.step overflowChecks) observed later = some final ∧
        final.Idle overflowChecks := by
  have hpaired := paired_of_run hguard hrun
  constructor
  · intro later final hlater hfinal
    have hkept : Paired final ∧ later.length + final.mock.remaining ≤ observed.mock.remaining := by
      apply invariant_of_history _ _ hlater hfinal
      · exact ⟨hpaired, by simp⟩
      · rintro before mid action next ⟨hmid, hlength⟩ hallowed hnext
        obtain ⟨hkept, hless⟩ := step_of_allowed hmid hallowed hnext
        refine ⟨hkept, ?_⟩
        rw [List.length_append, List.length_singleton]
        omega
    exact ⟨by omega, fun hidle hserving => hidle.settled hkept.1 hserving⟩
  · have hprogress (mid : Observed) (hmid : Paired mid) (hgoes : ¬ mid.Idle overflowChecks) :
        ∃ action next, Allowed mid action ∧ mid.step overflowChecks action = some next ∧
          Paired next ∧ next.mock.remaining < mid.mock.remaining := by
      simp only [Idle, not_forall] at hgoes
      obtain ⟨action, hallowed, hsome⟩ := hgoes
      obtain ⟨next, hnext⟩ := Option.ne_none_iff_exists'.mp hsome
      exact ⟨action, next, hallowed, hnext, step_of_allowed hmid hallowed hnext⟩
    obtain ⟨later, final, hlater, hfinal, -, hidle⟩ :=
      exists_meeting_run_to_rest (fun mid : Observed => mid.mock.remaining) hprogress hpaired
    exact ⟨later, final, hlater, hfinal, hidle⟩

/-- There is a reply for the call of the second session and none for the first session, one call of
which has sent its request while another one is about to. -/
def unansweredRun : List Action :=
  (Wire.creationRun 0 7 ++ Wire.creationRun 1 9).map .owner ++
    [.addReply (SessionManager.replyTo 9), .run] ++
    (Wire.requestRun 0 0 ++ (Wire.requestRun 0 1).dropLast ++ Wire.requestRun 1 0).map .owner

theorem calls_wait_only_where_no_reply_was_found_unansweredRun :
    ∃ observed, Rust.run (Observed.step true) .new unansweredRun = some observed ∧
      observed.mock.remaining = 88 ∧
      (∀ later final, Meets (Observed.step true) Allowed observed later →
        Rust.run (Observed.step true) observed later = some final →
          later.length ≤ observed.mock.remaining ∧
            (final.Idle true → final.mock.serving.isOver = false → final.Settled)) ∧
      ∃ later final, Meets (Observed.step true) Allowed observed later ∧
        Rust.run (Observed.step true) observed later = some final ∧ final.Idle true := by
  have hguard : Meets (Observed.step true) OneAtATime .new unansweredRun := by decide +kernel
  have hremaining : (Rust.run (Observed.step true) .new unansweredRun).map
      (fun observed => observed.mock.remaining) = some 88 := by decide +kernel
  obtain ⟨observed, hrun, hfacts⟩ := Option.map_eq_some_iff.mp hremaining
  exact ⟨observed, hrun, hfacts, calls_wait_only_where_no_reply_was_found hguard hrun⟩

end Run

end Observed

end MockConnection

end TacacsRs.Networking
