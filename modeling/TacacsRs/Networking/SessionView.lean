import TacacsRs.Networking.Connection
import TacacsRs.Networking.LiveSession

/-!
# One session of a connection

Seen from one session, every run of the connection is a run of that session:
packets for it are delivered, the packets of others are queued and written, and
all the rest is invisible. A session sees nothing of its own end, since none of
its calls is left by then.
-/

namespace TacacsRs.Networking

open Rust Messages

namespace Session

variable {session next : Session} {duplexChannel duplexChannel' : DuplexChannel} {index : Nat}
  {call : Call} {poll : Poll}

/-- A poll leaves the outgoing queue alone, or queues one packet. -/
theorem Polled.sender_cases
    (h : Polled session duplexChannel index call poll next duplexChannel') :
    duplexChannel'.sender = duplexChannel.sender ∨
      ∃ packet, duplexChannel.sender.send packet = .sent duplexChannel'.sender := by
  cases h with
  | queue packet hphase hopen hroom =>
      exact .inr ⟨packet, Channel.send_eq_sent_iff.mpr ⟨hopen, hroom, rfl⟩⟩
  | senderClosed | senderOpen | joinRead | receiverClosed | receiverOpen | complete | incomplete
  | draw | queueClosed | joinWrite | acquire | closed | reply | malformed | succeed | abandon =>
      exact .inl rfl

/-- A poll leaves the session's channel alone, or takes a packet from it. -/
theorem Polled.receiver_cases
    (h : Polled session duplexChannel index call poll next duplexChannel') :
    duplexChannel'.receiver = duplexChannel.receiver ∨
      ∃ hnonempty, duplexChannel'.receiver = duplexChannel.receiver.pop hnonempty := by
  cases h with
  | reply response receiver reply hphase hrecv =>
      obtain ⟨hnonempty, -, hpop⟩ := Channel.recv_eq_received_iff.mp hrecv
      exact .inr ⟨hnonempty, hpop⟩
  | malformed response receiver result hphase hrecv =>
      obtain ⟨hnonempty, -, hpop⟩ := Channel.recv_eq_received_iff.mp hrecv
      exact .inr ⟨hnonempty, hpop⟩
  | senderClosed | senderOpen | joinRead | receiverClosed | receiverOpen | complete | incomplete
  | draw | queue | queueClosed | joinWrite | acquire | closed | succeed | abandon => exact .inl rfl

/-- No poll drops an end of the session's channel. -/
theorem Polled.receiver_ends
    (h : Polled session duplexChannel index call poll next duplexChannel') :
    duplexChannel'.receiver.sendersDropped = duplexChannel.receiver.sendersDropped ∧
      duplexChannel'.receiver.receiverDropped = duplexChannel.receiver.receiverDropped := by
  rcases h.receiver_cases with hsame | ⟨hnonempty, hpop⟩
  · rw [hsame]
    exact ⟨rfl, rfl⟩
  · rw [hpop]
    exact ⟨rfl, rfl⟩

/-- Only a call that is not over is polled. -/
theorem Polled.isOver_eq (h : Polled session duplexChannel index call poll next duplexChannel') :
    call.phase.isOver = false := by
  cases h with
  | abandon hreturned habandoned =>
      unfold CallPhase.isOver
      split
      · next result hphase => exact absurd hphase (hreturned result)
      · next hphase => exact absurd hphase habandoned
      · rfl
  | senderClosed hphase | senderOpen hphase | joinRead hphase | receiverClosed hphase
  | receiverOpen hphase | complete hphase | incomplete hphase | draw phase hphase
  | queue packet hphase | queueClosed packet hphase | joinWrite hphase | acquire hphase
  | closed hphase
  | reply response receiver reply hphase | malformed response receiver result hphase
  | succeed reply hphase =>
      rw [hphase]
      rfl

end Session

/-- The channel as the session sees it. -/
def SessionChannel.seen (sessionChannel : SessionChannel) : PacketChannel :=
  { sessionChannel.channel with receiverDropped := false }

theorem SessionChannel.seen_eq {sessionChannel : SessionChannel}
    (h : sessionChannel.channel.receiverDropped = false) :
    sessionChannel.seen = sessionChannel.channel := by
  rw [seen, ← h]

namespace SessionManager

/-- Every session can still be sent packets. -/
def Connected (manager : SessionManager) : Prop :=
  ∀ sessionChannel ∈ manager.sessions, sessionChannel.channel.sendersDropped = false

theorem Connected.set {manager next : SessionManager} (h : manager.Connected) {index : Nat}
    {session : SessionChannel} (hsession : manager.sessions[index]? = some session)
    {channel : PacketChannel}
    (hnext : next.sessions = manager.sessions.set index { session with channel })
    (hsame : channel.sendersDropped = session.channel.sendersDropped) : next.Connected := by
  intro sessionChannel hmem
  rw [hnext] at hmem
  rcases List.mem_or_eq_of_mem_set hmem with hold | rfl
  · exact h sessionChannel hold
  · exact hsame.trans (h session (List.mem_of_getElem? hsession))

/-- The manager drops no sender of a session. -/
theorem Connected.step {manager next : SessionManager} {action : Action} {event : Event}
    (h : manager.Connected) (hstep : Step manager action next event) : next.Connected := by
  cases hstep with
  | create | permit | refuse | cancel | disable | lookup | reject | fail => exact h
  | register call draws sessionId =>
      intro sessionChannel hmem
      rcases List.mem_append.mp hmem with hold | hnew
      · exact h sessionChannel hold
      · obtain rfl := List.mem_singleton.mp hnew
        rfl
  | deliver packet index session hsending hsession | receive index session hsession
  | drop index session hsession =>
      exact h.set hsession rfl rfl

/-- Only its owner drops a session. -/
theorem Step.receiverDropped {manager next : SessionManager} {action : Action} {event : Event}
    (hstep : Step manager action next event) (howner : action.byOwner = false) {index : Nat}
    {session : SessionChannel} (hsession : next.sessions[index]? = some session)
    (hdropped : session.channel.receiverDropped = true) :
    ∃ before : SessionChannel, manager.sessions[index]? = some before ∧
      before.channel.receiverDropped = true := by
  cases hstep with
  | create | permit | refuse | cancel | disable | lookup | reject | fail =>
      exact ⟨session, hsession, hdropped⟩
  | register call draws sessionId =>
      rcases getElem?_append_singleton_cases hsession with ⟨-, rfl⟩ | hold
      · simp at hdropped
      · exact ⟨session, hold, hdropped⟩
  | deliver packet position channel hsending hchannel =>
      rcases getElem?_set_cases hsession with ⟨rfl, rfl⟩ | ⟨-, hold⟩
      · exact ⟨channel, hchannel, hdropped⟩
      · exact ⟨session, hold, hdropped⟩
  | receive | drop => simp [Action.byOwner] at howner

end SessionManager

namespace Connection

/-- What the session at `index` sees of the connection; before it is created, a new session
under the given id. -/
def view (connection : Connection) (index : Nat) (sessionId : UInt32) : LiveSession where
  session := connection.sessions[index]?.getD (.new sessionId)
  duplexChannel :=
    { sender := connection.sessionManager.outgoing
      receiver := (connection.sessionManager.sessions.map SessionChannel.seen)[index]?.getD .new }

/-- The id of the session at `index`, once there is one. -/
def HasId (connection : Connection) (index : Nat) (sessionId : UInt32) : Prop :=
  ∀ id, connection.sessionManager.ids[index]? = some id → id = sessionId

theorem HasId.of_step {connection next : Connection} {action : Action} {index : Nat}
    {sessionId : UInt32} (h : next.HasId index sessionId)
    (hstep : Step connection action next) : connection.HasId index sessionId := by
  obtain ⟨added, hadded⟩ := hstep.ids_prefix
  intro id hid
  exact h id (hadded ▸ getElem?_append_of_some hid added)

/-- Sessions and channels go together, and both ends of a channel last as long as they are
used. -/
structure Matched (connection : Connection) : Prop where
  ids : connection.sessions.map Session.sessionId = connection.sessionManager.ids
  connected : connection.dropped = false → connection.sessionManager.Connected
  finished : ∀ (index : Nat) (session : Session) (sessionChannel : SessionChannel),
    connection.sessions[index]? = some session →
      connection.sessionManager.sessions[index]? = some sessionChannel →
        sessionChannel.channel.receiverDropped = true →
          session.calls.all fun call => call.phase.isOver

theorem matched_new : Matched .new where
  ids := rfl
  connected := by simp [new, SessionManager.new, SessionManager.Connected]
  finished := by simp [new]

section Step

variable {connection next : Connection} {action : Action} {index : Nat} {sessionId : UInt32}
  {session : Session} {sessionChannel : SessionChannel}

theorem Matched.length_eq (h : Matched connection) :
    connection.sessions.length = connection.sessionManager.sessions.length :=
  length_eq_of_ids h.ids

theorem Matched.exists_session (h : Matched connection)
    (hchannel : connection.sessionManager.sessions[index]? = some sessionChannel) :
    ∃ session, connection.sessions[index]? = some session := by
  have hindex := (List.getElem?_eq_some_iff.mp hchannel).1
  rw [← h.length_eq] at hindex
  exact ⟨_, List.getElem?_eq_getElem hindex⟩

/-- A session that is polled has not been dropped. -/
theorem Matched.open_of_polled (h : Matched connection)
    (hsession : connection.sessions[index]? = some session)
    (hchannel : connection.sessionManager.sessions[index]? = some sessionChannel)
    {duplexChannel duplexChannel' : DuplexChannel} {callIndex : Nat} {call : Call} {poll : Poll}
    {polled : Session} (hcall : session.calls[callIndex]? = some call)
    (hpolled : Session.Polled session duplexChannel callIndex call poll polled duplexChannel') :
    sessionChannel.channel.receiverDropped = false := by
  by_contra hdropped
  rw [Bool.not_eq_false] at hdropped
  have hover := List.all_eq_true.mp (h.finished index session sessionChannel hsession hchannel
    hdropped) call (List.mem_of_getElem? hcall)
  rw [hpolled.isOver_eq] at hover
  exact absurd hover Bool.false_ne_true

theorem Matched.finished_step (h : Matched connection) (hstep : Step connection action next) :
    ∀ (index : Nat) (session : Session) (sessionChannel : SessionChannel),
      next.sessions[index]? = some session →
        next.sessionManager.sessions[index]? = some sessionChannel →
          sessionChannel.channel.receiverDropped = true →
            session.calls.all fun call => call.phase.isOver := by
  intro index session sessionChannel hsession hchannel hdropped
  cases hstep with
  | manage action manager event hpresent howner hstep =>
      obtain ⟨before, hbefore, hdropped⟩ := hstep.receiverDropped howner hchannel hdropped
      have hindex : index < connection.sessions.length := by
        rw [h.length_eq]
        exact (List.getElem?_eq_some_iff.mp hbefore).1
      rw [List.getElem?_append_left hindex] at hsession
      exact h.finished index session before hsession hbefore hdropped
  | start other request started startedChannel hstarted hstartedChannel hopen =>
      rcases getElem?_set_cases hsession with ⟨rfl, rfl⟩ | ⟨-, hold⟩
      · obtain rfl : startedChannel = sessionChannel :=
          Option.some.inj (hstartedChannel.symm.trans hchannel)
        simp [hopen] at hdropped
      · exact h.finished index session sessionChannel hold hchannel hdropped
  | poll other call poll polling polled pollingChannel duplexChannel hpolling hpollingChannel
      hpoll =>
      obtain ⟨running, hcall, hpolled⟩ := Session.poll_eq_some hpoll
      have hopen := h.open_of_polled hpolling hpollingChannel hcall hpolled
      rcases getElem?_set_cases hchannel with ⟨rfl, rfl⟩ | ⟨hne, hold⟩
      · simp [hpolled.receiver_ends.2, hopen] at hdropped
      · rcases getElem?_set_cases hsession with ⟨rfl, -⟩ | ⟨-, hkept⟩
        · exact absurd rfl hne
        · exact h.finished index session sessionChannel hkept hold hdropped
  | dropSession other dropped droppedChannel hdroppedSession hover hdroppedChannel =>
      rcases getElem?_set_cases hchannel with ⟨rfl, rfl⟩ | ⟨-, hold⟩
      · obtain rfl : dropped = session := Option.some.inj (hdroppedSession.symm.trans hsession)
        exact hover
      · exact h.finished index session sessionChannel hsession hold hdropped
  | takeOutgoing | closeOutgoing =>
      exact h.finished index session sessionChannel hsession hchannel hdropped
  | dropConnection =>
      rw [List.getElem?_map, Option.map_eq_some_iff] at hchannel
      obtain ⟨before, hbefore, rfl⟩ := hchannel
      exact h.finished index session before hsession hbefore hdropped

theorem Matched.step (h : Matched connection) (hstep : Step connection action next) :
    Matched next := by
  refine ⟨hstep.sessions_ids h.ids, ?_, h.finished_step hstep⟩
  have hconnected := h.connected
  cases hstep with
  | manage action manager event hpresent howner hstep =>
      exact fun _ => (hconnected hpresent).step hstep
  | start | takeOutgoing | closeOutgoing => exact hconnected
  | poll index call poll session polled sessionChannel duplexChannel hsession hchannel hpoll =>
      obtain ⟨running, -, hpolled⟩ := Session.poll_eq_some hpoll
      exact fun hpresent => (hconnected hpresent).set hchannel rfl hpolled.receiver_ends.1
  | dropSession index session sessionChannel hsession hover hchannel =>
      exact fun hpresent => (hconnected hpresent).set hchannel rfl rfl
  | dropConnection => simp

theorem Matched.complete (h : connection.Matched)
    (hsession : connection.sessions[index]? = some session) :
    Matched { connection with sessions := connection.sessions.set index session.complete } where
  ids := (map_set_of_eq Session.sessionId hsession (by rfl)).trans h.ids
  connected := h.connected
  finished := by
    intro other finished sessionChannel hfinished hchannel hdropped
    rcases getElem?_set_cases hfinished with ⟨rfl, rfl⟩ | ⟨-, hold⟩
    · exact h.finished other session sessionChannel hsession hchannel hdropped
    · exact h.finished other finished sessionChannel hold hchannel hdropped

theorem Matched.queue (h : connection.Matched) {request : Packet}
    (hroom : connection.sessionManager.outgoing.HasRoom) :
    Matched { connection with sessionManager := { connection.sessionManager with
      outgoing := connection.sessionManager.outgoing.push request hroom } } :=
  ⟨h.ids, h.connected, h.finished⟩

end Step

section View

variable {connection next : Connection} {action : Action} {index : Nat} {sessionId : UInt32}
  {session : Session} {sessionChannel : SessionChannel}

theorem view_of_some (hsession : connection.sessions[index]? = some session)
    (hchannel : connection.sessionManager.sessions[index]? = some sessionChannel) :
    connection.view index sessionId =
      ⟨session, ⟨connection.sessionManager.outgoing, sessionChannel.seen⟩⟩ := by
  simp [view, hsession, hchannel]

/-- What other sessions and the writer do changes the outgoing queue at most. -/
theorem view_of_outgoing (hsession : next.sessions[index]? = connection.sessions[index]?)
    (hchannel : next.sessionManager.sessions[index]? =
      connection.sessionManager.sessions[index]?) :
    next.view index sessionId = { connection.view index sessionId with
      duplexChannel := { (connection.view index sessionId).duplexChannel with
        sender := next.sessionManager.outgoing } } := by
  rw [view, view, hsession, List.getElem?_map, List.getElem?_map, hchannel]

theorem view_congr (hsession : next.sessions[index]? = connection.sessions[index]?)
    (hchannel : next.sessionManager.sessions[index]? = connection.sessionManager.sessions[index]?)
    (houtgoing : next.sessionManager.outgoing = connection.sessionManager.outgoing) :
    next.view index sessionId = connection.view index sessionId := by
  rw [view_of_outgoing hsession hchannel, houtgoing]
  rfl

/-- What leads from `connection` to `next` is a run of the session at `index`. -/
def Visible (connection next : Connection) (index : Nat) (sessionId : UInt32) : Prop :=
  ∃ actions, run LiveSession.step (connection.view index sessionId) actions =
    some (next.view index sessionId)

theorem visible_of_eq (h : next.view index sessionId = connection.view index sessionId) :
    Visible connection next index sessionId :=
  ⟨[], congrArg some h.symm⟩

theorem visible_of_step (seen : LiveSession.Action)
    (h : (connection.view index sessionId).step seen = some (next.view index sessionId)) :
    Visible connection next index sessionId :=
  ⟨[seen], run_cons_of_step h []⟩

/-- Another session queues a packet. -/
theorem visible_of_send {packet : Packet}
    (hsession : next.sessions[index]? = connection.sessions[index]?)
    (hchannel : next.sessionManager.sessions[index]? = connection.sessionManager.sessions[index]?)
    (hsend : connection.sessionManager.outgoing.send packet =
      .sent next.sessionManager.outgoing) : Visible connection next index sessionId := by
  apply visible_of_step (.queueOther packet)
  rw [view_of_outgoing hsession hchannel]
  simp only [LiveSession.step, view, hsend]

/-- From a session, a step of the manager is the delivery of a packet or nothing at all. -/
theorem Matched.visible_manage (h : Matched connection) (hpresent : connection.dropped = false)
    {action : SessionManager.Action} {manager : SessionManager} {event : SessionManager.Event}
    (howner : action.byOwner = false)
    (hstep : SessionManager.Step connection.sessionManager action manager event)
    (hid : ∀ id, manager.ids[index]? = some id → id = sessionId) :
    Visible connection { connection with
      sessionManager := manager
      sessions := connection.sessions ++ event.registeredIds.map Session.new } index
        sessionId := by
  cases hstep with
  | create | permit | refuse | cancel | disable | lookup | reject | fail =>
      refine visible_of_eq (view_congr ?_ rfl rfl)
      simp [SessionManager.Event.registeredIds]
  | register call draws id =>
      refine visible_of_eq ?_
      have hnew (hindex : index = connection.sessions.length) :
          Session.new id = .new sessionId := by
        have hregistered := hid id
        simp [SessionManager.ids, hindex, h.length_eq] at hregistered
        rw [hregistered]
      have hseen : (⟨id, .new⟩ : SessionChannel).seen = .new := rfl
      simp only [view, SessionManager.Event.registeredIds, List.map_cons, List.map_nil,
        List.map_append]
      rw [getD_getElem?_append_singleton hnew, getD_getElem?_append_singleton fun _ => hseen]
  | deliver packet position channel hsending hchannel hopen hroom =>
      by_cases hposition : position = index
      · subst hposition
        obtain ⟨session, hsession⟩ := h.exists_session hchannel
        have hconnected := h.connected hpresent channel (List.mem_of_getElem? hchannel)
        have hsend : channel.channel.send packet = .sent (channel.channel.push packet hroom) :=
          Channel.send_eq_sent_iff.mpr ⟨hopen, hroom, rfl⟩
        have hpushed : SessionChannel.seen ⟨channel.sessionId, channel.channel.push packet hroom⟩ =
            channel.channel.push packet hroom := SessionChannel.seen_eq hopen
        apply visible_of_step (.deliver packet)
        rw [view_of_some hsession hchannel, channel.seen_eq hopen,
          view_of_some (getElem?_append_of_some hsession _) (getElem?_set_of_some hchannel _),
          hpushed]
        simp only [LiveSession.step, hconnected, hsend]
      · refine visible_of_eq (view_congr ?_ ?_ rfl)
        · simp [SessionManager.Event.registeredIds]
        · exact List.getElem?_set_ne hposition
  | receive | drop => simp [SessionManager.Action.byOwner] at howner

/-- From a session, a poll is one of its own or adds at most a packet to the outgoing queue. -/
theorem Matched.visible_poll (h : Matched connection) {other call : Nat} {poll : Poll}
    {polling polled : Session} {pollingChannel : SessionChannel} {duplexChannel : DuplexChannel}
    (hpolling : connection.sessions[other]? = some polling)
    (hchannel : connection.sessionManager.sessions[other]? = some pollingChannel)
    (hpoll : polling.poll ⟨connection.sessionManager.outgoing, pollingChannel.channel⟩ call poll =
      some (polled, duplexChannel)) :
    Visible connection { connection with
      sessionManager := { connection.sessionManager with
        outgoing := duplexChannel.sender
        sessions := connection.sessionManager.sessions.set other
          { pollingChannel with channel := duplexChannel.receiver } }
      sessions := connection.sessions.set other polled } index sessionId := by
  obtain ⟨running, hcall, hpolled⟩ := Session.poll_eq_some hpoll
  by_cases hother : other = index
  · subst hother
    have hopen := h.open_of_polled hpolling hchannel hcall hpolled
    have hkept : SessionChannel.seen ⟨pollingChannel.sessionId, duplexChannel.receiver⟩ =
        duplexChannel.receiver := SessionChannel.seen_eq (hpolled.receiver_ends.2.trans hopen)
    apply visible_of_step (.poll call poll)
    rw [view_of_some hpolling hchannel, pollingChannel.seen_eq hopen,
      view_of_some (getElem?_set_of_some hpolling _) (getElem?_set_of_some hchannel _), hkept]
    simp only [LiveSession.step, hpoll, Option.map_some]
  · have hsession : (connection.sessions.set other polled)[index]? = connection.sessions[index]? :=
      List.getElem?_set_ne hother
    have hchannels : (connection.sessionManager.sessions.set other
        { pollingChannel with channel := duplexChannel.receiver })[index]? =
          connection.sessionManager.sessions[index]? := List.getElem?_set_ne hother
    rcases hpolled.sender_cases with hsame | ⟨packet, hsend⟩
    · exact visible_of_eq (view_congr hsession hchannels hsame)
    · exact visible_of_send hsession hchannels hsend

theorem Matched.visible_step (h : Matched connection) (hstep : Step connection action next)
    (hid : next.HasId index sessionId) : Visible connection next index sessionId := by
  cases hstep with
  | manage action manager event hpresent howner hstep =>
      exact h.visible_manage hpresent howner hstep hid
  | start other request started startedChannel hstarted hchannel hopen =>
      by_cases hother : other = index
      · subst hother
        apply visible_of_step (.sendAccountingRequest request)
        simp [view, hstarted, getElem?_set_of_some hstarted, LiveSession.step]
      · exact visible_of_eq (view_congr (List.getElem?_set_ne hother) rfl rfl)
  | poll other call poll polling polled pollingChannel duplexChannel hpolling hchannel hpoll =>
      exact h.visible_poll hpolling hchannel hpoll
  | dropSession other dropped droppedChannel hdropped hover hchannel hopen =>
      have hseen : (connection.sessionManager.sessions.set other
          { droppedChannel with channel := droppedChannel.channel.dropReceiver }).map
            SessionChannel.seen = connection.sessionManager.sessions.map SessionChannel.seen :=
        map_set_of_eq SessionChannel.seen hchannel rfl
      apply visible_of_eq
      rw [view, view, hseen]
  | takeOutgoing hopen hnonempty =>
      obtain ⟨packet, hrecv⟩ := Channel.exists_recv_eq_received hnonempty
      apply visible_of_step .takeOutgoing
      simp only [LiveSession.step, view, hopen, hrecv]
  | closeOutgoing => exact visible_of_step .closeOutgoing rfl
  | dropConnection =>
      cases hchannel : connection.sessionManager.sessions[index]? with
      | none =>
          apply visible_of_eq
          simp [view, hchannel]
      | some channel =>
          apply visible_of_step .disconnect
          simp [view, hchannel, LiveSession.step, SessionChannel.seen, Channel.dropSenders]

end View

end Connection

end TacacsRs.Networking
