import TacacsRs.Networking.MockFlow

/-!
# Transactions with the mock server

Where each session is used by one call at a time, the reply that a call gets is
the one that was found for its own request, and a call waits for ever only if
none was found.
-/

namespace TacacsRs.Networking

open Rust Messages

namespace Connection

variable {connection next : Connection} {packet : Packet}

/-- A packet that is handed on waits to be sent to the session with its id, if there is one. -/
theorem Step.lookup_cases (h : Step connection (.manage (.sendMessageToSession packet)) next) :
    next.sessions = connection.sessions ∧
      next.sessionManager.sessions = connection.sessionManager.sessions ∧
      connection.sessionManager.sending = none ∧
      ((∃ target, connection.sessionManager.duplexChannels.lookup packet.header.sessionId =
          some target ∧ next.sessionManager.sending = some (packet, target)) ∨
        connection.sessionManager.duplexChannels.lookup packet.header.sessionId = none ∧
          next.sessionManager.sending = none) := by
  cases h with
  | manage action manager event hpresent howner hstep =>
      cases hstep with
      | lookup _ target hidle hlookup =>
          exact ⟨List.append_nil _, rfl, hidle, .inl ⟨target, hlookup, rfl⟩⟩
      | reject _ hidle hlookup => exact ⟨List.append_nil _, rfl, hidle, .inr ⟨hlookup, hidle⟩⟩

/-- The packet that waits is queued to its session, or is lost with it. -/
theorem Step.finishSend_cases (h : Step connection (.manage .finishSend) next) :
    next.sessions = connection.sessions ∧ next.sessionManager.sending = none ∧
      ∃ (packet : Packet) (target : Nat) (session : SessionChannel),
        connection.sessionManager.sending = some (packet, target) ∧
        connection.sessionManager.sessions[target]? = some session ∧
        ((∃ hroom, next.sessionManager.sessions = connection.sessionManager.sessions.set target
            { session with channel := session.channel.push packet hroom }) ∨
          session.channel.receiverDropped = true ∧
            next.sessionManager.sessions = connection.sessionManager.sessions) := by
  cases h with
  | manage action manager event hpresent howner hstep =>
      cases hstep with
      | deliver packet target session hsending hsession hopen hroom =>
          exact ⟨List.append_nil _, rfl, packet, target, session, hsending, hsession,
            .inl ⟨hroom, rfl⟩⟩
      | fail packet target session hsending hsession hdropped =>
          exact ⟨List.append_nil _, rfl, packet, target, session, hsending, hsession,
            .inr ⟨hdropped, rfl⟩⟩

end Connection

namespace MockConnection

/-- What is underway for the session at `index`, the next one first. -/
def trail (mock : MockConnection) (index : Nat) (sessionChannel : SessionChannel) : List Item :=
  trailOf sessionChannel.channel (mock.connection.sessionManager.awaiting index)
    (entriesAt itemSession mock.underway sessionChannel.sessionId)

/-- What a step does to the calls of a session and to what is underway for it. -/
inductive Moved (next : MockConnection) (action : Action) (event : Event) (index : Nat)
    (calls : List Call) (trail : List Item) (calls' : List Call) (trail' : List Item) : Prop where
  | keep (hcalls : calls' = calls) (htrail : trail' = trail)
  | lose (hcalls : calls' = calls) (htrail : trail'.Sublist trail)
      (hlost : next.connection.sessionManager.outgoing.receiverDropped = true ∨ Quiet calls)
  | answer (request reply : Packet) (before after : List Item) (hcalls : calls' = calls)
      (hevent : event = .answered request reply)
      (hbefore : trail = before ++ .request request :: after)
      (hafter : trail' = before ++ .reply reply :: after)
  | giveUp (request : Packet) (before after : List Item) (hcalls : calls' = calls)
      (hevent : event = .unanswered request)
      (hbefore : trail = before ++ .request request :: after) (hafter : trail' = before ++ after)
  | start (request : AccountingRequest)
      (hcalls : calls' = calls ++ [⟨request, none, none, .checkingSender⟩])
      (htrail : trail' = trail)
  | poll (callIndex : Nat) (call call' : Call) (poll : Poll)
      (haction : action = .owner (.poll index callIndex poll))
      (hcall : calls[callIndex]? = some call) (hcalls : calls' = calls.set callIndex call')
      (htransacts : Transacts call call' trail trail' poll)

section Step

variable {overflowChecks : Bool} {mock next : MockConnection} {action : Action} {event : Event}
  {index : Nat} {session before : Session} {sessionChannel beforeChannel : SessionChannel}

/-- A step that leaves a session its calls and its channel changes what is underway for it as it
changes what has not come back. -/
theorem Flow.moved (h : Flow mock action next event) (horderly : mock.Orderly)
    (hchannel : mock.connection.sessionManager.sessions[index]? = some beforeChannel)
    (hsend : ∀ callIndex, action ≠ .owner (.poll index callIndex .send))
    (hpass : action ≠ .deliverReply) (hcalls : session.calls = before.calls)
    (hqueue : sessionChannel.channel.queue = beforeChannel.channel.queue)
    (hid : sessionChannel.sessionId = beforeChannel.sessionId)
    (hawaiting : next.connection.sessionManager.awaiting index =
      mock.connection.sessionManager.awaiting index) :
    Moved next action event index before.calls (mock.trail index beforeChannel) session.calls
      (next.trail index sessionChannel) := by
  have htrail {underway : List Item} (hunderway : next.underway = underway) :
      next.trail index sessionChannel = trailOf beforeChannel.channel
        (mock.connection.sessionManager.awaiting index)
          (entriesAt itemSession underway beforeChannel.sessionId) := by
    rw [trail, trailOf, trailOf, hqueue, hid, hawaiting, hunderway]
  have hregistered := horderly.regular.ordered.registered.registered
  have hown := SessionManager.getElem?_ids hchannel
  cases h with
  | same hunderway => exact .keep hcalls (htrail hunderway)
  | queue other callIndex call packet haction hcall hphase hunderway =>
      have hother : itemSession (.request packet) ≠ beforeChannel.sessionId := by
        intro hsame
        have hids := horderly.regular.getElem?_ids hcall hphase
        rw [show packetSession packet = beforeChannel.sessionId from hsame] at hids
        exact hsend callIndex (hregistered.index_eq hown hids ▸ haction)
      refine .keep hcalls ((htrail hunderway).trans ?_)
      rw [entriesAt_concat_of_ne hother, trail]
  | answer request reply replySequenceNumber rest hanswering hreply hevent hbefore hafter =>
      have hsame : itemSession (.reply reply) = itemSession (.request request) :=
        (horderly.answers hanswering hreply).1
      by_cases hmine : itemSession (.request request) = beforeChannel.sessionId
      · refine .answer request reply (beforeChannel.channel.queue.map .reply ++
          (mock.connection.sessionManager.awaiting index).map .reply)
          (entriesAt itemSession rest beforeChannel.sessionId) hcalls hevent ?_ ?_
        · rw [trail, trailOf, hbefore, entriesAt_cons_self hmine, List.append_assoc]
        · rw [htrail hafter, trailOf, entriesAt_cons_self (hsame.trans hmine), List.append_assoc]
      · refine .keep hcalls ?_
        rw [htrail hafter, entriesAt_cons_of_ne (hsame ▸ hmine), trail, hbefore,
          entriesAt_cons_of_ne hmine]
  | giveUp request hevent hunderway =>
      by_cases hmine : itemSession (.request request) = beforeChannel.sessionId
      · refine .giveUp request (beforeChannel.channel.queue.map .reply ++
          (mock.connection.sessionManager.awaiting index).map .reply)
          (entriesAt itemSession next.underway beforeChannel.sessionId) hcalls hevent ?_ ?_
        · rw [trail, trailOf, hunderway, entriesAt_cons_self hmine, List.append_assoc]
        · rw [htrail rfl, trailOf, List.append_assoc]
      · refine .keep hcalls ?_
        rw [htrail rfl, trail, hunderway, entriesAt_cons_of_ne hmine]
  | pass reply haction => exact absurd haction hpass
  | close hclosed hunderway =>
      refine .lose hcalls ?_ (.inl hclosed)
      rw [htrail hunderway]
      exact (List.Sublist.refl _).append ((List.Sublist.refl _).append (List.nil_sublist _))

/-- A reply that is passed on is still underway for the session with its id. -/
theorem moved_of_passed (horderly : mock.Orderly) {reply : Packet}
    (hunderway : mock.underway = .reply reply :: next.underway)
    (hstep : Connection.Step mock.connection (.manage (.sendMessageToSession reply))
      next.connection)
    (hsession : next.connection.sessions[index]? = some session)
    (hchannel : next.connection.sessionManager.sessions[index]? = some sessionChannel) :
    mock.connection.sessions[index]? = some session ∧
      mock.connection.sessionManager.sessions[index]? = some sessionChannel ∧
      Moved next action event index session.calls (mock.trail index sessionChannel) session.calls
        (next.trail index sessionChannel) := by
  have hregistered := horderly.regular.ordered.registered.registered
  obtain ⟨hsessions, hchannels, hidle, hlooked⟩ := hstep.lookup_cases
  rw [hsessions] at hsession
  rw [hchannels] at hchannel
  have hown := SessionManager.getElem?_ids hchannel
  refine ⟨hsession, hchannel, .keep rfl ?_⟩
  rw [trail, trail, hunderway, SessionManager.awaiting_of_idle hidle]
  rcases hlooked with ⟨target, hlookup, hsending⟩ | ⟨hlookup, hsending⟩
  · have htarget := (hregistered _ _).mp hlookup
    by_cases hmine : itemSession (.reply reply) = sessionChannel.sessionId
    · obtain rfl : target = index := by
        rw [show reply.header.sessionId = sessionChannel.sessionId from hmine] at htarget
        exact hregistered.index_eq htarget hown
      rw [SessionManager.awaiting_self hsending, entriesAt_cons_self hmine]
      rfl
    · have hother : target ≠ index := by
        rintro rfl
        exact hmine (Option.some.inj (htarget.symm.trans hown))
      rw [SessionManager.awaiting_of_ne hsending hother, entriesAt_cons_of_ne hmine]
  · have hother : itemSession (.reply reply) ≠ sessionChannel.sessionId := by
      intro hmine
      rw [show reply.header.sessionId = sessionChannel.sessionId from hmine,
        (hregistered _ _).mpr hown] at hlookup
      simp at hlookup
    rw [SessionManager.awaiting_of_idle hsending, entriesAt_cons_of_ne hother]

/-- The reply that waits gets into the session's channel, or is lost with the session. -/
theorem moved_of_finished (horderly : mock.Orderly) (hunderway : next.underway = mock.underway)
    (hstep : Connection.Step mock.connection (.manage .finishSend) next.connection)
    (hsession : next.connection.sessions[index]? = some session)
    (hchannel : next.connection.sessionManager.sessions[index]? = some sessionChannel) :
    mock.connection.sessions[index]? = some session ∧ ∃ beforeChannel : SessionChannel,
      mock.connection.sessionManager.sessions[index]? = some beforeChannel ∧
      Moved next action event index session.calls (mock.trail index beforeChannel) session.calls
        (next.trail index sessionChannel) := by
  obtain ⟨hsessions, hidle, packet, target, targetChannel, hsending, htarget, hsent⟩ :=
    hstep.finishSend_cases
  rw [hsessions] at hsession
  refine ⟨hsession, ?_⟩
  have hnone : next.connection.sessionManager.awaiting index = [] :=
    SessionManager.awaiting_of_idle hidle
  rcases hsent with ⟨hroom, hchannels⟩ | ⟨hdropped, hchannels⟩
  · rw [hchannels] at hchannel
    rcases getElem?_set_cases hchannel with ⟨rfl, rfl⟩ | ⟨hne, hold⟩
    · refine ⟨targetChannel, htarget, .keep rfl ?_⟩
      rw [trail, trail, hunderway, hnone, SessionManager.awaiting_self hsending, trailOf, trailOf,
        Channel.queue_push, List.map_append, List.append_assoc]
      rfl
    · refine ⟨sessionChannel, hold, .keep rfl ?_⟩
      rw [trail, trail, hunderway, hnone, SessionManager.awaiting_of_ne hsending (Ne.symm hne)]
  · rw [hchannels] at hchannel
    refine ⟨sessionChannel, hchannel, ?_⟩
    by_cases hmine : target = index
    · subst hmine
      obtain rfl := Option.some.inj (htarget.symm.trans hchannel)
      have hfinished := horderly.regular.matched.finished target session targetChannel hsession
        hchannel hdropped
      refine .lose rfl ?_ (.inr (quiet_of_over hfinished))
      rw [trail, trail, hunderway, hnone]
      exact (List.Sublist.refl _).append ((List.nil_sublist _).append (List.Sublist.refl _))
    · refine .keep rfl ?_
      rw [trail, trail, hunderway, hnone, SessionManager.awaiting_of_ne hsending hmine]

/-- Nothing is underway on a connection that is gone. -/
theorem Orderly.underway_eq_nil (h : mock.Orderly) (hdropped : mock.connection.dropped = true) :
    mock.underway = [] ∧ mock.connection.sessionManager.sending = none := by
  have hover : mock.serving.isOver = true := by
    by_contra hserving
    rw [Bool.not_eq_true] at hserving
    simp [h.served.present hserving] at hdropped
  refine ⟨underway_of_closed (h.closed hdropped) hover, h.served.idle ?_⟩
  intro hsending
  simp [hsending, Serving.isOver] at hover

theorem moved_of_polled (horderly : mock.Orderly) {callIndex : Nat} {poll : Poll}
    (hstep : Connection.Step mock.connection (.poll index callIndex poll) next.connection)
    (hserving : next.serving = mock.serving)
    (hsession : next.connection.sessions[index]? = some session)
    (hchannel : next.connection.sessionManager.sessions[index]? = some sessionChannel) :
    ∃ (before : Session) (beforeChannel : SessionChannel),
      mock.connection.sessions[index]? = some before ∧
      mock.connection.sessionManager.sessions[index]? = some beforeChannel ∧
      Moved next (.owner (.poll index callIndex poll)) event index before.calls
        (mock.trail index beforeChannel) session.calls (next.trail index sessionChannel) := by
  generalize hconnection : next.connection = connection at hstep hsession hchannel
  cases hstep with
  | poll _ _ _ before polled beforeChannel duplexChannel hbefore hbeforeChannel hpoll =>
      obtain ⟨call, hcall, hpolled⟩ := Session.poll_eq_some hpoll
      obtain rfl := Option.some.inj ((getElem?_set_of_some hbefore _).symm.trans hsession)
      obtain rfl := Option.some.inj ((getElem?_set_of_some hbeforeChannel _).symm.trans hchannel)
      have houtgoing : next.connection.sessionManager.outgoing = duplexChannel.sender := by
        rw [hconnection]
      have hafter : next.trail index { beforeChannel with channel := duplexChannel.receiver } =
          trailOf duplexChannel.receiver (mock.connection.sessionManager.awaiting index)
            (entriesAt itemSession next.underway beforeChannel.sessionId) := by
        have hawaiting : next.connection.sessionManager.awaiting index =
            mock.connection.sessionManager.awaiting index := by
          rw [hconnection]
          rfl
        rw [trail, hawaiting]
      obtain ⟨call', hcalls, htransacts⟩ :
          ∃ call', polled.calls = before.calls.set callIndex call' ∧
          Transacts call call' (mock.trail index beforeChannel)
            (trailOf duplexChannel.receiver (mock.connection.sessionManager.awaiting index)
              (entriesAt itemSession next.underway beforeChannel.sessionId)) poll := by
        refine hpolled.transacts ?_ ?_ ?_
        · intro hsame
          rw [underway_of_turn (congrArg _ hserving).symm (houtgoing.trans hsame)]
        · intro packet hroom hphase hopen hpush
          have hids := horderly.regular.getElem?_ids
            (Connection.callAt_eq_some_iff.mpr ⟨before, hbefore, hcall⟩) hphase
          have hmine : itemSession (.request packet) = beforeChannel.sessionId :=
            Option.some.inj (hids.symm.trans (SessionManager.getElem?_ids hbeforeChannel))
          rw [underway_of_push hserving hopen hroom (houtgoing.trans hpush),
            entriesAt_concat_self hmine]
        · intro hsenders
          have hdropped : mock.connection.dropped = true := by
            by_contra hpresent
            rw [Bool.not_eq_true] at hpresent
            have hconnected := horderly.regular.matched.connected hpresent beforeChannel
              (List.mem_of_getElem? hbeforeChannel)
            exact Bool.false_ne_true (hconnected.symm.trans hsenders)
          obtain ⟨hunderway, hidle⟩ := horderly.underway_eq_nil hdropped
          refine ⟨SessionManager.awaiting_of_idle hidle, ?_⟩
          rw [hunderway]
          rfl
      refine ⟨before, beforeChannel, hbefore, hbeforeChannel,
        .poll callIndex call call' poll rfl hcall hcalls ?_⟩
      rwa [hafter]

/-- Nothing is underway for a session that is registered only now. -/
theorem Orderly.trail_of_new (h : mock.Orderly) {sessionId : UInt32}
    (hfresh : sessionId ∉ mock.connection.sessionManager.duplexChannels)
    (hunderway : next.underway = mock.underway)
    (hidle : next.connection.sessionManager.sending = none) :
    next.trail index ⟨sessionId, .new⟩ = [] := by
  have hnone : entriesAt itemSession next.underway sessionId = [] := by
    rw [entriesAt, List.filter_eq_nil_iff, hunderway]
    intro item hitem hsame
    have hmem := h.known item hitem
    rw [of_decide_eq_true hsame] at hmem
    exact hfresh (h.regular.ordered.registered.registered.mem_iff.mpr hmem)
  rw [trail, trailOf, hnone, SessionManager.awaiting_of_idle hidle]
  rfl

/-- What the owner does concerns one session at most, and a new one starts with nothing. -/
theorem moved_of_owner (horderly : mock.Orderly) {connectionAction : Connection.Action}
    (howner : connectionAction.byOwner = true)
    (hstep : Connection.Step mock.connection connectionAction next.connection)
    (hserving : next.serving = mock.serving)
    (hflow : Flow mock (.owner connectionAction) next event)
    (hsession : next.connection.sessions[index]? = some session)
    (hchannel : next.connection.sessionManager.sessions[index]? = some sessionChannel) :
    (session.calls = [] ∧ next.trail index sessionChannel = []) ∨
      ∃ (before : Session) (beforeChannel : SessionChannel),
        mock.connection.sessions[index]? = some before ∧
        mock.connection.sessionManager.sessions[index]? = some beforeChannel ∧
        Moved next (.owner connectionAction) event index before.calls
          (mock.trail index beforeChannel) session.calls (next.trail index sessionChannel) := by
  generalize hconnection : next.connection = connection at hstep hsession hchannel
  have hawaiting (h : connection.sessionManager.sending = mock.connection.sessionManager.sending) :
      next.connection.sessionManager.awaiting index =
        mock.connection.sessionManager.awaiting index := by
    rw [hconnection, SessionManager.awaiting, SessionManager.awaiting, h]
  cases hstep with
  | manage action manager managed hpresent howned hmanaged =>
      cases hmanaged with
      | create | permit | refuse | cancel =>
          rw [show _ ++ List.map Session.new (SessionManager.Event.registeredIds _) = _ from
            List.append_nil _] at hsession
          exact .inr ⟨session, sessionChannel, hsession, hchannel,
            hflow.moved horderly hchannel (by simp) (by simp) rfl rfl rfl (hawaiting rfl)⟩
      | register call draws sessionId hcall hidle hdraw =>
          have hlength := horderly.regular.matched.length_eq
          rcases getElem?_append_singleton_cases hchannel with ⟨rfl, rfl⟩ | hold
          · left
            rcases getElem?_append_singleton_cases hsession with ⟨-, rfl⟩ | hold
            · refine ⟨rfl, horderly.trail_of_new (SessionManager.drawSessionId_notMem hdraw) ?_ ?_⟩
              · exact underway_of_turn (congrArg _ hserving).symm (by rw [hconnection])
              · rw [hconnection]
                exact hidle
            · rw [← hlength, List.getElem?_eq_none (Nat.le_refl _)] at hold
              simp at hold
          · have hindex := (List.getElem?_eq_some_iff.mp hold).1
            rw [← hlength] at hindex
            rw [List.getElem?_append_left hindex] at hsession
            exact .inr ⟨session, sessionChannel, hsession, hold,
              hflow.moved horderly hold (by simp) (by simp) rfl rfl rfl (hawaiting rfl)⟩
      | disable | lookup | reject | deliver | fail | receive | drop =>
          simp [Connection.Action.byOwner] at howner
  | start target request started startedChannel hstarted =>
      right
      rcases getElem?_set_cases hsession with ⟨rfl, rfl⟩ | ⟨-, hold⟩
      · refine ⟨started, sessionChannel, hstarted, hchannel, .start request rfl ?_⟩
        have hunderway : next.underway = mock.underway :=
          underway_of_turn (congrArg _ hserving).symm (by rw [hconnection])
        rw [trail, trail, hunderway, hawaiting rfl]
      · exact ⟨session, sessionChannel, hold, hchannel,
          hflow.moved horderly hchannel (by simp) (by simp) rfl rfl rfl (hawaiting rfl)⟩
  | poll target callIndex poll polling polled pollingChannel duplexChannel hpolling
      hpollingChannel hpoll =>
      right
      rcases getElem?_set_cases hsession with ⟨rfl, rfl⟩ | ⟨hne, hold⟩
      · refine moved_of_polled horderly ?_ hserving ?_ ?_
        · rw [hconnection]
          exact .poll index callIndex poll polling session pollingChannel duplexChannel hpolling
            hpollingChannel hpoll
        · rw [hconnection]
          exact hsession
        · rw [hconnection]
          exact hchannel
      · rcases getElem?_set_cases hchannel with ⟨rfl, -⟩ | ⟨-, hkept⟩
        · exact absurd rfl hne
        · refine ⟨session, sessionChannel, hold, hkept,
            hflow.moved horderly hkept ?_ (by simp) rfl rfl rfl (hawaiting rfl)⟩
          rintro call hpolled
          simp only [Action.owner.injEq, Connection.Action.poll.injEq] at hpolled
          exact hne hpolled.1.symm
  | dropSession target dropped droppedChannel hdropped hover hdroppedChannel =>
      right
      rcases getElem?_set_cases hchannel with ⟨rfl, rfl⟩ | ⟨-, hold⟩
      · exact ⟨session, droppedChannel, hsession, hdroppedChannel,
          hflow.moved horderly hdroppedChannel (by simp) (by simp) rfl rfl rfl (hawaiting rfl)⟩
      · exact ⟨session, sessionChannel, hsession, hold,
          hflow.moved horderly hold (by simp) (by simp) rfl rfl rfl (hawaiting rfl)⟩
  | takeOutgoing | closeOutgoing | dropConnection => simp [Connection.Action.byOwner] at howner

/-- A session that is new has no calls and nothing underway; what a step does to the others is one
of the ways to move. -/
theorem Step.moved (h : Step overflowChecks mock action next event) (horderly : mock.Orderly)
    (hunqueued : ∀ index request, action ≠ .queueRequest index request)
    (hsession : next.connection.sessions[index]? = some session)
    (hchannel : next.connection.sessionManager.sessions[index]? = some sessionChannel) :
    (session.calls = [] ∧ next.trail index sessionChannel = []) ∨
      ∃ (before : Session) (beforeChannel : SessionChannel),
        mock.connection.sessions[index]? = some before ∧
        mock.connection.sessionManager.sessions[index]? = some beforeChannel ∧
        Moved next action event index before.calls (mock.trail index beforeChannel) session.calls
          (next.trail index sessionChannel) := by
  have hflow := h.flow horderly.served hunqueued
  cases h with
  | run | addReply | unanswered | answered | recordRequest =>
      exact .inr ⟨session, sessionChannel, hsession, hchannel,
        hflow.moved horderly hchannel (by simp) (by simp) rfl rfl rfl rfl⟩
  | queueRequest index request => exact absurd rfl (hunqueued index request)
  | closed hreceiving hnone => exact absurd hnone horderly.served.recv_ne_closed
  | completeSession target completed hcompleted =>
      right
      rcases getElem?_set_cases hsession with ⟨rfl, rfl⟩ | ⟨-, hold⟩
      · exact ⟨completed, sessionChannel, hcompleted, hchannel,
          hflow.moved horderly hchannel (by simp) (by simp) rfl rfl rfl rfl⟩
      · exact ⟨session, sessionChannel, hold, hchannel,
          hflow.moved horderly hchannel (by simp) (by simp) rfl rfl rfl rfl⟩
  | receive request outgoing replySequenceNumber connection hreceiving hrecv hnumber htake =>
      cases htake
      exact .inr ⟨session, sessionChannel, hsession, hchannel,
        hflow.moved horderly hchannel (by simp) (by simp) rfl rfl rfl rfl⟩
  | overflow request outgoing connection hreceiving hrecv hpanicked htake =>
      cases htake
      exact .inr ⟨session, sessionChannel, hsession, hchannel,
        hflow.moved horderly hchannel (by simp) (by simp) rfl rfl rfl rfl⟩
  | deliverReply reply connection hdelivering hdeliver =>
      exact .inr ⟨session, sessionChannel, moved_of_passed horderly
        (underway_of_delivered hdelivering hdeliver (items_of_delivered connection)) hdeliver
          hsession hchannel⟩
  | finishSend connection hsending hfinish =>
      obtain ⟨hbefore, beforeChannel, hmoved⟩ := moved_of_finished horderly
        (underway_of_finished hsending hfinish rfl) hfinish hsession hchannel
      exact .inr ⟨session, beforeChannel, hbefore, hmoved⟩
  | dropConnection connection hover hdrop =>
      right
      cases hdrop with
      | dropConnection =>
          rw [List.getElem?_map, Option.map_eq_some_iff] at hchannel
          obtain ⟨beforeChannel, hbefore, rfl⟩ := hchannel
          exact ⟨session, beforeChannel, hsession, hbefore,
            hflow.moved horderly hbefore (by simp) (by simp) rfl rfl rfl rfl⟩
  | owner action connection howner howned =>
      exact moved_of_owner horderly howner howned rfl hflow hsession hchannel

/-- What a call has written stays as it is. -/
theorem Step.wrote (h : Step overflowChecks mock action next event) (hserved : mock.Served)
    (hunqueued : ∀ index request, action ≠ .queueRequest index request) {author : Nat × Nat}
    {packet : Packet} (hwrote : mock.connection.Wrote author packet) :
    next.connection.Wrote author packet := by
  refine h.invariant (P := fun connection => connection.Wrote author packet) ?_ ?_ hserved
    hunqueued hwrote
  · exact fun connection action next hwrote hstep => hwrote.step hstep
  · intro connection index session hwrote hsession
    exact hwrote.set hsession rfl rfl fun callIndex call hcall hsent =>
      ⟨call, hcall, hsent, rfl, rfl⟩

end Step

/-- Each session is used by one call at a time: a call sends when no other call of its session has
its request out, and no such call is given up. The owner queues no request by himself. -/
def OneAtATime (observed : Observed) : Action → Prop
  | .owner (.poll index _ .send) =>
      ∀ session ∈ observed.mock.connection.sessions[index]?, Quiet session.calls
  | .owner (.poll index callIndex .abandon) =>
      ∀ call ∈ observed.mock.connection.callAt index callIndex, call.phase.isOutstanding = false
  | .queueRequest _ _ => False
  | _ => True

instance decidableOneAtATime (observed : Observed) :
    ∀ action, Decidable (OneAtATime observed action)
  | .owner (.poll index _ .send) => inferInstanceAs (Decidable
      (∀ session ∈ observed.mock.connection.sessions[index]?, Quiet session.calls))
  | .owner (.poll index callIndex .abandon) => inferInstanceAs (Decidable
      (∀ call ∈ observed.mock.connection.callAt index callIndex, call.phase.isOutstanding = false))
  | .queueRequest _ _ => .isFalse id
  | .owner (.poll _ _ .checkSender) | .owner (.poll _ _ .joinRead)
  | .owner (.poll _ _ .checkReceiver) | .owner (.poll _ _ .checkComplete)
  | .owner (.poll _ _ .draw) | .owner (.poll _ _ .joinWrite) | .owner (.poll _ _ .acquire)
  | .owner (.poll _ _ .receive) | .owner (.poll _ _ .complete) | .owner (.manage _)
  | .owner (.sendAccountingRequest _ _) | .owner (.dropSession _) | .owner .takeOutgoing
  | .owner .closeOutgoing | .owner .dropConnection | .run | .completeSession _ | .addReply _
  | .receive | .takeReply | .recordRequest | .deliverReply | .finishSend | .dropConnection =>
      .isTrue trivial

/-- What is known of the requests of the session at `index`. -/
def Observed.account (observed : Observed) (index : Nat) : Account where
  wrote callIndex := observed.mock.connection.Wrote (index, callIndex)
  answered request reply := (request, reply) ∈ observed.answers
  unanswered request := .unanswered request ∈ observed.events
  closed := observed.mock.connection.sessionManager.outgoing.receiverDropped = true

/-- The reply was found under the id of the request and the next number. -/
def Follows (reply request : Packet) : Prop :=
  packetSession reply = packetSession request ∧ reply.header.seqNo = request.header.seqNo + 1

/-- Every session is used by one call at a time, and every reply found follows its request. -/
structure Paired (observed : Observed) : Prop where
  orderly : observed.mock.Orderly
  follows : ∀ answer ∈ observed.answers, Follows answer.2 answer.1
  transactions : ∀ (index : Nat) (session : Session) (sessionChannel : SessionChannel),
    observed.mock.connection.sessions[index]? = some session →
      observed.mock.connection.sessionManager.sessions[index]? = some sessionChannel →
        Transaction (observed.account index) session.calls
          (observed.mock.trail index sessionChannel)

theorem paired_new : Paired .new where
  orderly := orderly_new
  follows := by simp [Observed.new, Observed.answers]
  transactions := by simp [Observed.new, new, Connection.new]

section Paired

variable {overflowChecks : Bool} {mock next : MockConnection} {action : Action} {event : Event}
  {events : List Event} {index : Nat}

theorem OneAtATime.unqueued (h : OneAtATime ⟨mock, events⟩ action) (index : Nat)
    (request : Packet) : action ≠ .queueRequest index request := by
  rintro rfl
  exact h

theorem account_extends (hserved : mock.Served)
    (hunqueued : ∀ index request, action ≠ .queueRequest index request)
    (hstep : Step overflowChecks mock action next event) :
    (Observed.account ⟨mock, events⟩ index).Extends
      (Observed.account ⟨next, events ++ [event]⟩ index) where
  wrote := fun callIndex packet hwrote => hstep.wrote hserved hunqueued hwrote
  answered := by
    intro request reply hanswered
    simp only [Observed.account, Observed.answers, List.flatMap_append, List.mem_append]
    exact .inl hanswered
  unanswered := fun request hunanswered => List.mem_append_left _ hunanswered
  closed := by
    intro hclosed
    rcases hstep.closing_cases hserved with ⟨hreceiver, -⟩ | ⟨hreceiver, -⟩
    · exact hreceiver.trans hclosed
    · exact hreceiver

theorem Paired.follows_step (h : Paired ⟨mock, events⟩)
    (hstep : Step overflowChecks mock action next event) (answer : Packet × Packet)
    (hanswer : answer ∈ Observed.answers ⟨next, events ++ [event]⟩) :
    Follows answer.2 answer.1 := by
  rw [Observed.answers, List.flatMap_append, List.mem_append, List.flatMap_singleton] at hanswer
  rcases hanswer with hold | hnew
  · exact h.follows answer hold
  · rcases hstep.replies_cases with ⟨-, -, hnone⟩ | ⟨reply, -, rfl, -⟩ |
      ⟨request, reply, replySequenceNumber, -, rfl, hanswering, hreply, -⟩
    · simp [hnone] at hnew
    · simp [Event.answers] at hnew
    · obtain rfl : answer = (request, reply) := by simpa [Event.answers] using hnew
      exact h.orderly.answers hanswering hreply

theorem Paired.transactions_step (h : Paired ⟨mock, events⟩)
    (hguard : OneAtATime ⟨mock, events⟩ action)
    (hstep : Step overflowChecks mock action next event) {session : Session}
    {sessionChannel : SessionChannel} (hsession : next.connection.sessions[index]? = some session)
    (hchannel : next.connection.sessionManager.sessions[index]? = some sessionChannel) :
    Transaction (Observed.account ⟨next, events ++ [event]⟩ index) session.calls
      (next.trail index sessionChannel) := by
  have hunqueued := hguard.unqueued
  rcases hstep.moved h.orderly hunqueued hsession hchannel with ⟨hcalls, htrail⟩ |
    ⟨before, beforeChannel, hbefore, hbeforeChannel, hmoved⟩
  · rw [hcalls, htrail]
    exact .new
  have hextends : (Observed.account ⟨mock, events⟩ index).Extends
      (Observed.account ⟨next, events ++ [event]⟩ index) :=
    account_extends h.orderly.served hunqueued hstep
  have hkept := (h.transactions index before beforeChannel hbefore hbeforeChannel).extend hextends
  cases hmoved with
  | keep hcalls htrail =>
      rw [hcalls, htrail]
      exact hkept
  | lose hcalls htrail hlost =>
      rw [hcalls]
      exact hkept.lose htrail hlost
  | answer request reply first rest hcalls hevent hfirst hrest =>
      rw [hcalls, hrest]
      refine hkept.answer ?_ hfirst
      simp [Observed.account, Observed.answers, hevent, Event.answers]
  | giveUp request first rest hcalls hevent hfirst hrest =>
      rw [hcalls, hrest]
      refine hkept.giveUp ?_ hfirst
      simp [Observed.account, hevent]
  | start request hcalls htrail =>
      rw [hcalls, htrail]
      exact hkept.start request
  | poll callIndex call call' poll haction hcall hcalls htransacts =>
      have hcallAt : mock.connection.callAt index callIndex = some call :=
        Connection.callAt_eq_some_iff.mpr ⟨before, hbefore, hcall⟩
      subst haction
      rw [hcalls]
      refine hkept.polled hcall htransacts ?_ ?_ ?_
      · rintro rfl
        exact hguard before hbefore
      · rintro rfl
        exact hguard call hcallAt
      · rintro packet rfl hphase hout
        obtain ⟨authors, hauthors⟩ := h.orderly.regular.authored
        cases hstep with
        | owner _ connection howner howned =>
            have hcallAt' : connection.callAt index callIndex = some call' := by
              refine Connection.callAt_eq_some_iff.mpr ⟨session, hsession, ?_⟩
              rw [hcalls]
              exact getElem?_set_of_some hcall call'
            exact howned.wrote_of_queued hauthors.prepared hcallAt hphase hcallAt'
              (CallPhase.beforeSend_of_isOutstanding hout)

theorem Paired.step (h : Paired ⟨mock, events⟩) (hguard : OneAtATime ⟨mock, events⟩ action)
    (hstep : Step overflowChecks mock action next event) : Paired ⟨next, events ++ [event]⟩ where
  orderly := h.orderly.step hstep hguard.unqueued
  follows := h.follows_step hstep
  transactions := fun _ _ _ hsession hchannel =>
    h.transactions_step hguard hstep hsession hchannel

variable {actions : List Action} {observed : Observed} {session : Session}

theorem paired_of_run (hguard : Meets (Observed.step overflowChecks) OneAtATime .new actions)
    (hrun : Rust.run (Observed.step overflowChecks) .new actions = some observed) :
    Paired observed := by
  refine invariant_of_meets paired_new ?_ hguard hrun
  rintro ⟨mock, events⟩ action ⟨next, events'⟩ hmid hallowed hstep
  obtain ⟨event, hevent, rfl⟩ := Observed.step_eq_some hstep
  exact hmid.step hallowed hevent

/-- In every run in which each session is used by one call at a time and no request is queued by
hand, a call that returns a reply returns what a packet decodes to that the server found for this
call's own request, under the id of its session and the next number. -/
theorem calls_get_the_replies_to_their_requests
    (hguard : Meets (Observed.step overflowChecks) OneAtATime .new actions)
    (hrun : Rust.run (Observed.step overflowChecks) .new actions = some observed)
    (hsession : observed.mock.connection.sessions[index]? = some session) :
    ∀ callIndex call reply, session.calls[callIndex]? = some call →
      call.phase = .returned (.ok reply) → ∃ request response,
        observed.mock.connection.Wrote (index, callIndex) request ∧
        (request, response) ∈ observed.answers ∧ Follows response request ∧
        AccountingReply.fromBytes response.body = .ok reply := by
  intro callIndex call reply hcall hreturned
  have hpaired := paired_of_run hguard hrun
  obtain ⟨sessionChannel, hchannel, -⟩ :=
    hpaired.orderly.regular.ordered.registered.exists_channel hsession
  have hsettled := hpaired.orderly.regular.settled session (List.mem_of_getElem? hsession) call
    (List.mem_of_getElem? hcall)
  obtain ⟨response, hresponse, hreply⟩ := hsettled.of_returned hreturned
  obtain ⟨request, hwrote, hanswered⟩ :=
    (hpaired.transactions index session sessionChannel hsession hchannel).settled callIndex call
      response hcall hresponse
  exact ⟨request, response, hwrote, hanswered, hpaired.follows (request, response) hanswered,
    hreply⟩

/-- The server takes a request, finds its reply and passes it on. -/
def transactionRun : List Action :=
  [.receive, .takeReply, .recordRequest, .deliverReply, .finishSend]

/-- A scripted reply to the second request of the session, which reports an error. -/
def errorReply : Packet :=
  { SessionManager.replyTo 7 with
    header := { (SessionManager.replyTo 7).header with seqNo := 4 }, body := [0, 0, 0, 0, 2] }

/-- A call waits for its reply, takes it and returns it. -/
def replyRun (callIndex : Nat) : List Action :=
  [Poll.joinWrite, .acquire, .receive, .complete].map fun poll => .owner (.poll 0 callIndex poll)

/-- Two calls of one session draw their numbers. The first one sends its request and gets its reply,
and then the second one does. -/
def answeredRun : List Action :=
  (Wire.creationRun 0 7).map .owner ++
    [.addReply errorReply, .addReply (SessionManager.replyTo 7), .run] ++
    (Wire.requestRun 0 0 ++ (Wire.requestRun 0 1).dropLast).map .owner ++ transactionRun ++
    replyRun 0 ++ [.owner (.poll 0 1 .send)] ++ transactionRun ++ replyRun 1

theorem calls_get_the_replies_to_their_requests_answeredRun :
    ∃ observed session, Rust.run (Observed.step true) .new answeredRun = some observed ∧
      observed.mock.connection.sessions[0]? = some session ∧
      session.calls.map Call.phase =
        [.returned (.ok ⟨.tacPlusAcctStatusSuccess, "", ""⟩),
          .returned (.ok ⟨.tacPlusAcctStatusError, "", ""⟩)] ∧
      ∀ callIndex call reply, session.calls[callIndex]? = some call →
        call.phase = .returned (.ok reply) → ∃ request response,
          observed.mock.connection.Wrote (0, callIndex) request ∧
          (request, response) ∈ observed.answers ∧ Follows response request ∧
          AccountingReply.fromBytes response.body = .ok reply := by
  have hguard : Meets (Observed.step true) OneAtATime .new answeredRun := by decide +kernel
  have hphases : ((Rust.run (Observed.step true) .new answeredRun).bind fun observed =>
      observed.mock.connection.sessions[0]?).map (fun session => session.calls.map Call.phase) =
        some [.returned (.ok ⟨.tacPlusAcctStatusSuccess, "", ""⟩),
          .returned (.ok ⟨.tacPlusAcctStatusError, "", ""⟩)] := by decide +kernel
  obtain ⟨session, hfound, hcalls⟩ := Option.map_eq_some_iff.mp hphases
  obtain ⟨observed, hrun, hsession⟩ := Option.bind_eq_some_iff.mp hfound
  exact ⟨observed, session, hrun, hsession, hcalls,
    calls_get_the_replies_to_their_requests hguard hrun hsession⟩

end Paired

end MockConnection

end TacacsRs.Networking
