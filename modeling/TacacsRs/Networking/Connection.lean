import TacacsRs.Networking.Demultiplexing
import TacacsRs.Networking.Session

/-!
# A connection and its sessions

The session manager and all the sessions that it has created, each at the place
of its channel. Every session polls its calls on its own channel and on the
connection's outgoing queue, which the writer empties. A session is dropped when
none of its calls runs, and the connection when nothing of the manager does.
-/

namespace TacacsRs.Networking

open Rust Messages

/-- The call has returned or was abandoned. -/
def CallPhase.isOver : CallPhase → Bool
  | .returned _ => true
  | .abandoned => true
  | _ => false

/-- The call of `create_session` has returned, or its future was dropped. -/
def Creation.isOver : Creation → Bool
  | .checkingPermission => false
  | .creatingChannel => false
  | _ => true

/-- Its owner, not the connection, takes packets from a session and drops it. -/
def SessionManager.Action.byOwner : SessionManager.Action → Bool
  | .receive _ => true
  | .dropSession _ => true
  | _ => false

/-- The session manager and the sessions it has made; a dropped connection keeps neither. -/
structure Connection where
  sessionManager : SessionManager
  sessions : List Session
  dropped : Bool

namespace Connection

/-- A connection without sessions. -/
def new : Connection := ⟨.new, [], false⟩

/-- What happens to a connection: calls of its manager, calls on its sessions, and the two ends of
the outgoing queue. -/
inductive Action where
  | manage (action : SessionManager.Action)
  | sendAccountingRequest (session : Nat) (request : AccountingRequest)
  | poll (session : Nat) (call : Nat) (poll : Poll)
  | dropSession (session : Nat)
  | takeOutgoing
  | closeOutgoing
  | dropConnection
  deriving DecidableEq

/-- `create_session` wraps the new channel in a session before its next await point. -/
def manage (connection : Connection) (action : SessionManager.Action) : Option Connection :=
  if connection.dropped || action.byOwner then none
  else (connection.sessionManager.step action).map fun next =>
    { connection with
      sessionManager := next.1
      sessions := connection.sessions ++ next.2.registeredIds.map Session.new }

/-- A session that is still there starts a call of `send_accounting_request`. -/
def startCall (connection : Connection) (index : Nat) (request : AccountingRequest) :
    Option Connection :=
  match connection.sessions[index]?, connection.sessionManager.sessions[index]? with
  | some session, some sessionChannel =>
      if sessionChannel.channel.receiverDropped then none
      else some { connection with
        sessions := connection.sessions.set index (session.sendAccountingRequest request) }
  | _, _ => none

/-- A call of a session goes on, with the outgoing queue and the channel of its session. -/
def pollCall (connection : Connection) (index call : Nat) (poll : Poll) : Option Connection :=
  match connection.sessions[index]?, connection.sessionManager.sessions[index]? with
  | some session, some sessionChannel =>
      (session.poll ⟨connection.sessionManager.outgoing, sessionChannel.channel⟩ call poll).map
        fun next =>
          { connection with
            sessionManager := { connection.sessionManager with
              outgoing := next.2.sender
              sessions := connection.sessionManager.sessions.set index
                { sessionChannel with channel := next.2.receiver } }
            sessions := connection.sessions.set index next.1 }
  | _, _ => none

/-- A session is dropped by its owner when no call borrows it any more. -/
def dropSession (connection : Connection) (index : Nat) : Option Connection :=
  match connection.sessions[index]? with
  | none => none
  | some session =>
      if session.calls.all fun call => call.phase.isOver then
        (connection.sessionManager.step (.dropSession index)).map fun next =>
          { connection with sessionManager := next.1 }
      else none

/-- The writer takes the next packet of the outgoing queue. -/
def takeOutgoing (connection : Connection) : Option Connection :=
  match connection.sessionManager.outgoing.receiverDropped,
      connection.sessionManager.outgoing.recv with
  | false, .received _ outgoing =>
      some { connection with sessionManager := { connection.sessionManager with outgoing } }
  | _, _ => none

/-- The writer drops the receiver of the outgoing queue. -/
def closeOutgoing (connection : Connection) : Connection :=
  { connection with sessionManager := { connection.sessionManager with
    outgoing := connection.sessionManager.outgoing.dropReceiver } }

/-- `Session::complete` on a session that is not dropped. -/
def completeSession (connection : Connection) (index : Nat) : Option Connection :=
  match connection.sessions[index]?, connection.sessionManager.sessions[index]? with
  | some session, some sessionChannel =>
      if sessionChannel.channel.receiverDropped then none
      else some { connection with
        sessions := connection.sessions.set index session.complete }
  | _, _ => none

/-- A session's channels are public, so its owner can queue any packet. -/
def queueRequest (connection : Connection) (index : Nat) (request : Packet) : Option Connection :=
  match connection.sessions[index]?, connection.sessionManager.outgoing.send request with
  | some _, .sent outgoing =>
      some { connection with sessionManager := { connection.sessionManager with outgoing } }
  | _, _ => none

/-- The registry goes with the connection, and with it every session's sender. -/
def dropConnection (connection : Connection) : Option Connection :=
  if connection.dropped || connection.sessionManager.sending.isSome ||
      connection.sessionManager.creations.any (fun creation => !creation.isOver) then none
  else some { connection with
    sessionManager := { connection.sessionManager with
      sessions := connection.sessionManager.sessions.map fun session =>
        { session with channel := session.channel.dropSenders } }
    dropped := true }

/-- A step, or `none` where the action cannot happen. -/
def step (connection : Connection) : Action → Option Connection
  | .manage action => connection.manage action
  | .sendAccountingRequest index request => connection.startCall index request
  | .poll index call poll => connection.pollCall index call poll
  | .dropSession index => connection.dropSession index
  | .takeOutgoing => connection.takeOutgoing
  | .closeOutgoing => some connection.closeOutgoing
  | .dropConnection => connection.dropConnection

/-- The connection is gone with its last `Arc`, and the receiver of the outgoing queue with it if it
was not taken. -/
def free (connection : Connection) : Option Connection :=
  connection.closeOutgoing.step .dropConnection

/-- Every step of the connection, by what it does to the manager and to the sessions. -/
inductive Step (connection : Connection) : Action → Connection → Prop where
  | manage (action : SessionManager.Action) (manager : SessionManager)
      (event : SessionManager.Event) (hpresent : connection.dropped = false)
      (howner : action.byOwner = false)
      (hstep : SessionManager.Step connection.sessionManager action manager event) :
      Step connection (.manage action)
        { connection with
          sessionManager := manager
          sessions := connection.sessions ++ event.registeredIds.map Session.new }
  | start (index : Nat) (request : AccountingRequest) (session : Session)
      (sessionChannel : SessionChannel) (hsession : connection.sessions[index]? = some session)
      (hchannel : connection.sessionManager.sessions[index]? = some sessionChannel)
      (hopen : sessionChannel.channel.receiverDropped = false) :
      Step connection (.sendAccountingRequest index request)
        { connection with
          sessions := connection.sessions.set index (session.sendAccountingRequest request) }
  | poll (index call : Nat) (poll : Poll) (session next : Session)
      (sessionChannel : SessionChannel) (duplexChannel : DuplexChannel)
      (hsession : connection.sessions[index]? = some session)
      (hchannel : connection.sessionManager.sessions[index]? = some sessionChannel)
      (hpoll : session.poll ⟨connection.sessionManager.outgoing, sessionChannel.channel⟩ call
        poll = some (next, duplexChannel)) :
      Step connection (.poll index call poll)
        { connection with
          sessionManager := { connection.sessionManager with
            outgoing := duplexChannel.sender
            sessions := connection.sessionManager.sessions.set index
              { sessionChannel with channel := duplexChannel.receiver } }
          sessions := connection.sessions.set index next }
  | dropSession (index : Nat) (session : Session) (sessionChannel : SessionChannel)
      (hsession : connection.sessions[index]? = some session)
      (hover : session.calls.all fun call => call.phase.isOver)
      (hchannel : connection.sessionManager.sessions[index]? = some sessionChannel)
      (hopen : sessionChannel.channel.receiverDropped = false) :
      Step connection (.dropSession index)
        { connection with
          sessionManager := { connection.sessionManager with
            sessions := connection.sessionManager.sessions.set index
              { sessionChannel with channel := sessionChannel.channel.dropReceiver } } }
  | takeOutgoing
      (hopen : connection.sessionManager.outgoing.receiverDropped = false)
      (hnonempty : connection.sessionManager.outgoing.taken <
        connection.sessionManager.outgoing.sent.length) :
      Step connection .takeOutgoing
        { connection with
          sessionManager := { connection.sessionManager with
            outgoing := connection.sessionManager.outgoing.pop hnonempty } }
  | closeOutgoing : Step connection .closeOutgoing connection.closeOutgoing
  | dropConnection (hpresent : connection.dropped = false)
      (hidle : connection.sessionManager.sending = none)
      (hover : ∀ creation ∈ connection.sessionManager.creations, creation.isOver = true) :
      Step connection .dropConnection
        { connection with
          sessionManager := { connection.sessionManager with
            sessions := connection.sessionManager.sessions.map fun session =>
              { session with channel := session.channel.dropSenders } }
          dropped := true }

section Inversion

variable {connection next : Connection} {index : Nat}

theorem manage_eq_some {action : SessionManager.Action}
    (h : connection.manage action = some next) : Step connection (.manage action) next := by
  unfold manage at h
  split at h
  · simp at h
  · next hallowed =>
    rw [Bool.not_eq_true, Bool.or_eq_false_iff] at hallowed
    obtain ⟨⟨manager, event⟩, hstep, rfl⟩ := Option.map_eq_some_iff.mp h
    exact .manage action manager event hallowed.1 hallowed.2 (SessionManager.step_eq_some hstep)

theorem startCall_eq_some {request : AccountingRequest}
    (h : connection.startCall index request = some next) :
    Step connection (.sendAccountingRequest index request) next := by
  unfold startCall at h
  split at h
  · next session sessionChannel hsession hchannel =>
    split at h
    · simp at h
    · next hopen =>
      obtain rfl := Option.some.inj h
      exact .start index request session sessionChannel hsession hchannel
        (Bool.eq_false_iff.mpr hopen)
  · simp at h

theorem pollCall_eq_some {call : Nat} {poll : Poll}
    (h : connection.pollCall index call poll = some next) :
    Step connection (.poll index call poll) next := by
  unfold pollCall at h
  split at h
  · next session sessionChannel hsession hchannel =>
    obtain ⟨⟨polled, duplexChannel⟩, hpoll, rfl⟩ := Option.map_eq_some_iff.mp h
    exact .poll index call poll session polled sessionChannel duplexChannel hsession hchannel
      hpoll
  · simp at h

theorem dropSession_eq_some (h : connection.dropSession index = some next) :
    Step connection (.dropSession index) next := by
  unfold dropSession at h
  split at h
  · simp at h
  · next session hsession =>
    split at h
    · next hover =>
      obtain ⟨⟨manager, event⟩, hstep, rfl⟩ := Option.map_eq_some_iff.mp h
      cases SessionManager.step_eq_some hstep with
      | drop _ sessionChannel hchannel hopen =>
          exact .dropSession index session sessionChannel hsession hover hchannel hopen
    · simp at h

theorem takeOutgoing_eq_some (h : connection.takeOutgoing = some next) :
    Step connection .takeOutgoing next := by
  unfold takeOutgoing at h
  split at h
  · next outgoing hopen hrecv =>
    obtain rfl := Option.some.inj h
    obtain ⟨hnonempty, -, rfl⟩ := Channel.recv_eq_received_iff.mp hrecv
    exact .takeOutgoing hopen hnonempty
  · simp at h

theorem completeSession_eq_some (h : connection.completeSession index = some next) :
    ∃ session, connection.sessions[index]? = some session ∧
      next = { connection with sessions := connection.sessions.set index session.complete } := by
  unfold completeSession at h
  split at h
  · next session sessionChannel hsession hchannel =>
    split at h
    · simp at h
    · obtain rfl := Option.some.inj h
      exact ⟨session, hsession, rfl⟩
  · simp at h

theorem queueRequest_eq_some {request : Packet}
    (h : connection.queueRequest index request = some next) :
    connection.sessionManager.outgoing.receiverDropped = false ∧
      ∃ hroom : connection.sessionManager.outgoing.HasRoom,
        next = { connection with sessionManager := { connection.sessionManager with
          outgoing := connection.sessionManager.outgoing.push request hroom } } := by
  unfold queueRequest at h
  split at h
  · next session outgoing hsession hsend =>
    obtain rfl := Option.some.inj h
    obtain ⟨hopen, hroom, rfl⟩ := Channel.send_eq_sent_iff.mp hsend
    exact ⟨hopen, hroom, rfl⟩
  · simp at h

theorem dropConnection_eq_some (h : connection.dropConnection = some next) :
    Step connection .dropConnection next := by
  unfold dropConnection at h
  split at h
  · simp at h
  · next hidle =>
    obtain rfl := Option.some.inj h
    simp only [Bool.not_eq_true, Bool.or_eq_false_iff, Option.isSome_eq_false_iff,
      Option.isNone_iff_eq_none, List.any_eq_false, Bool.not_eq_true', Bool.not_eq_false] at hidle
    exact .dropConnection hidle.1.1 hidle.1.2 hidle.2

theorem step_eq_some {action : Action} (h : connection.step action = some next) :
    Step connection action next := by
  cases action with
  | manage action => exact manage_eq_some h
  | sendAccountingRequest index request => exact startCall_eq_some h
  | poll index call poll => exact pollCall_eq_some h
  | dropSession index => exact dropSession_eq_some h
  | takeOutgoing => exact takeOutgoing_eq_some h
  | closeOutgoing =>
      obtain rfl := Option.some.inj h
      exact .closeOutgoing
  | dropConnection => exact dropConnection_eq_some h

end Inversion

theorem map_sessionId_dropSenders (sessions : List SessionChannel) :
    (sessions.map fun session => { session with channel := session.channel.dropSenders }).map
      SessionChannel.sessionId = sessions.map SessionChannel.sessionId :=
  List.map_map

theorem Step.ids_prefix {connection next : Connection} {action : Action}
    (h : Step connection action next) :
    connection.sessionManager.ids <+: next.sessionManager.ids := by
  cases h with
  | manage action manager event hpresent howner hstep => exact ⟨_, hstep.ids_eq.symm⟩
  | poll index call poll session polled sessionChannel duplexChannel hsession hchannel =>
      have hids := SessionManager.map_sessionId_set hchannel duplexChannel.receiver
      exact ⟨[], (List.append_nil _).trans hids.symm⟩
  | dropSession index session sessionChannel hsession hover hchannel =>
      have hids := SessionManager.map_sessionId_set hchannel sessionChannel.channel.dropReceiver
      exact ⟨[], (List.append_nil _).trans hids.symm⟩
  | start | takeOutgoing | closeOutgoing => exact List.prefix_rfl
  | dropConnection => exact ⟨[], (List.append_nil _).trans (map_sessionId_dropSenders _).symm⟩

/-- The sessions stay the ones of the manager's channels. -/
theorem Step.sessions_ids {connection next : Connection} {action : Action}
    (h : Step connection action next)
    (hids : connection.sessions.map Session.sessionId = connection.sessionManager.ids) :
    next.sessions.map Session.sessionId = next.sessionManager.ids := by
  cases h with
  | manage action manager event hpresent howner hstep =>
      rw [List.map_append, hids, hstep.ids_eq, List.map_map]
      exact congrArg _ (List.map_id _)
  | start index request session sessionChannel hsession =>
      exact (map_set_of_eq Session.sessionId hsession (by rfl)).trans hids
  | poll index call poll session polled sessionChannel duplexChannel hsession hchannel hpoll =>
      obtain ⟨running, -, hpolled⟩ := Session.poll_eq_some hpoll
      rw [map_set_of_eq Session.sessionId hsession hpolled.sessionId_eq, hids]
      exact (SessionManager.map_sessionId_set hchannel _).symm
  | dropSession index session sessionChannel hsession hover hchannel =>
      exact hids.trans (SessionManager.map_sessionId_set hchannel _).symm
  | takeOutgoing | closeOutgoing => exact hids
  | dropConnection => exact hids.trans (map_sessionId_dropSenders _).symm

theorem length_eq_of_ids {connection : Connection}
    (h : connection.sessions.map Session.sessionId = connection.sessionManager.ids) :
    connection.sessions.length = connection.sessionManager.sessions.length := by
  have hlengths := congrArg List.length h
  rwa [List.length_map, SessionManager.ids, List.length_map] at hlengths

/-- A session with a call is not a new one. -/
theorem getElem?_of_call {connection : Connection} {ids : List UInt32} {index callIndex : Nat}
    {session : Session} {call : Call}
    (hsession : (connection.sessions ++ ids.map Session.new)[index]? = some session)
    (hcall : session.calls[callIndex]? = some call) :
    connection.sessions[index]? = some session := by
  rcases Nat.lt_or_ge index connection.sessions.length with hlt | hge
  · rwa [List.getElem?_append_left hlt] at hsession
  · rw [List.getElem?_append_right hge, List.getElem?_map, Option.map_eq_some_iff] at hsession
    obtain ⟨sessionId, -, rfl⟩ := hsession
    simp [Session.new] at hcall

/-- The registry holds every session of the connection under its id. -/
structure Registered (connection : Connection) : Prop where
  registered : connection.sessionManager.Registered
  ids : connection.sessions.map Session.sessionId = connection.sessionManager.ids

theorem registered_new : Registered .new where
  registered := by
    intro sessionId index
    simp [new, SessionManager.new, SessionManager.ids]
  ids := rfl

theorem Registered.step {connection next : Connection} {action : Action}
    (h : connection.Registered) (hstep : Step connection action next) : next.Registered := by
  refine ⟨?_, hstep.sessions_ids h.ids⟩
  cases hstep with
  | manage action manager event hpresent howner hstep => exact h.registered.step hstep
  | poll index callIndex poll session polled sessionChannel duplexChannel hsession hchannel =>
      exact h.registered.of_ids rfl (SessionManager.map_sessionId_set hchannel _)
  | dropSession index session sessionChannel hsession hover hchannel =>
      exact h.registered.of_ids rfl (SessionManager.map_sessionId_set hchannel _)
  | start | takeOutgoing | closeOutgoing => exact h.registered
  | dropConnection => exact h.registered.of_ids rfl (map_sessionId_dropSenders _)

theorem Registered.complete {connection : Connection} (h : connection.Registered) {index : Nat}
    {session : Session} (hsession : connection.sessions[index]? = some session) :
    Registered { connection with sessions := connection.sessions.set index session.complete } :=
  ⟨h.registered, (map_set_of_eq Session.sessionId hsession (by rfl)).trans h.ids⟩

theorem Registered.queue {connection : Connection} (h : connection.Registered) {request : Packet}
    (hroom : connection.sessionManager.outgoing.HasRoom) :
    Registered { connection with sessionManager := { connection.sessionManager with
      outgoing := connection.sessionManager.outgoing.push request hroom } } :=
  ⟨h.registered, h.ids⟩

end Connection

end TacacsRs.Networking
