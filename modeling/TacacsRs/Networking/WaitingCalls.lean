import TacacsRs.Networking.PadReuse
import TacacsRs.Networking.Quiescence

/-!
# Calls that wait on a dead connection

A call waits in `recv` for as long as its session's channel is empty and has a
sender. The registry holds a sender of every session and goes with the
connection only, so the end of the read task ends no wait. Only when the owner
has dropped the connection and the writer ends as well is it freed with its
handler.
-/

namespace TacacsRs.Networking

open Rust Messages

namespace Session

variable {session next : Session} {duplexChannel duplexChannel' : DuplexChannel} {index : Nat}
  {call : Call} {poll : Poll}

/-- Only a call that waits in `recv` takes a packet. -/
theorem Polled.receiver_eq_of_ne_receiving
    (h : Polled session duplexChannel index call poll next duplexChannel')
    (hphase : call.phase ≠ .receiving) : duplexChannel'.receiver = duplexChannel.receiver := by
  cases h with
  | reply response receiver reply hreceiving => exact absurd hreceiving hphase
  | malformed response receiver result hreceiving => exact absurd hreceiving hphase
  | senderClosed | senderOpen | joinRead | receiverClosed | receiverOpen | complete | incomplete
  | draw | queue | queueClosed | joinWrite | acquire | closed | succeed | abandon => rfl

/-- A poll begins the wait of its own call at most. -/
theorem Polled.receiving_cases
    (h : Polled session duplexChannel index call poll next duplexChannel') {other : Nat}
    {waiting : Call} (hwaiting : next.calls[other]? = some waiting)
    (hphase : waiting.phase = .receiving) :
    (other ≠ index ∧ session.calls[other]? = some waiting) ∨
      other = index ∧ poll = .acquire ∧ duplexChannel' = duplexChannel := by
  cases h with
  | acquire =>
      rcases getElem?_set_cases hwaiting with ⟨rfl, -⟩ | ⟨hne, hold⟩
      · exact .inr ⟨rfl, rfl, rfl⟩
      · exact .inl ⟨hne, hold⟩
  | draw phase hdrawing hnext =>
      rcases getElem?_set_cases hwaiting with ⟨rfl, rfl⟩ | ⟨hne, hold⟩
      · rcases hnext with ⟨packet, rfl, -⟩ | ⟨error, rfl⟩ | rfl <;> simp at hphase
      · exact .inl ⟨hne, hold⟩
  | senderClosed | senderOpen | joinRead | receiverClosed | receiverOpen | complete | incomplete
  | queue | queueClosed | joinWrite | closed | reply | malformed | succeed | abandon =>
      rcases getElem?_set_cases hwaiting with ⟨rfl, rfl⟩ | ⟨hne, hold⟩
      · simp at hphase
      · exact .inl ⟨hne, hold⟩

/-- One call at most waits in `recv`. -/
theorem Tracked.receiving_unique (h : session.Tracked) {other : Nat} {waiting : Call}
    (hcall : session.calls[index]? = some call) (hphase : call.phase = .receiving)
    (hother : session.calls[other]? = some waiting) (hwaiting : waiting.phase = .receiving) :
    index = other := by
  have hinside {i : Nat} {c : Call} (hc : session.calls[i]? = some c)
      (hreceiving : c.phase = .receiving) : session.receiverLock.writer = some i := by
    rw [h.writer, stakes, getD_map_eq _ _ hc, hreceiving]
    rfl
  exact Option.some.inj ((hinside hcall hphase).symm.trans (hinside hother hwaiting))

end Session

namespace Connection

variable {connection next : Connection} {action : Action} {index callIndex : Nat}

/-- Nothing has come for the call, and something still can. -/
def Waits (connection : Connection) (index callIndex : Nat) : Prop :=
  ∃ (session : Session) (call : Call) (sessionChannel : SessionChannel),
    connection.sessions[index]? = some session ∧ session.calls[callIndex]? = some call ∧
      call.phase = .receiving ∧ connection.sessionManager.sessions[index]? = some sessionChannel ∧
        sessionChannel.channel.recv = .pending

/-- A call that begins to wait in `recv` of this session has to wait. -/
def Unanswered (connection : Connection) (index : Nat) : Prop :=
  ∃ sessionChannel : SessionChannel,
    connection.sessionManager.sessions[index]? = some sessionChannel ∧
      sessionChannel.channel.recv = .pending

theorem Waits.congr (hsessions : next.sessions = connection.sessions)
    (hchannels : next.sessionManager.sessions = connection.sessionManager.sessions)
    (h : connection.Waits index callIndex) : next.Waits index callIndex := by
  rwa [Waits, hsessions, hchannels]

/-- Each session has its channel, the lock on its receiver records its calls, and its sender goes
with the connection. -/
structure Tended (connection : Connection) : Prop where
  ids : connection.sessions.map Session.sessionId = connection.sessionManager.ids
  tracked : ∀ session ∈ connection.sessions, session.Tracked
  severed : connection.dropped = true → ∀ sessionChannel ∈ connection.sessionManager.sessions,
    sessionChannel.channel.sendersDropped = true

theorem tended_new : Tended .new where
  ids := rfl
  tracked := by simp [new]
  severed := by simp [new]

theorem Tended.set_severed (h : connection.Tended) {sessionChannel : SessionChannel}
    (hchannel : connection.sessionManager.sessions[index]? = some sessionChannel)
    {channel : PacketChannel}
    (hsenders : channel.sendersDropped = sessionChannel.channel.sendersDropped) :
    connection.dropped = true → ∀ other ∈ connection.sessionManager.sessions.set index
      { sessionChannel with channel }, other.channel.sendersDropped = true := by
  intro hdropped other hother
  rcases List.mem_or_eq_of_mem_set hother with hold | rfl
  · exact h.severed hdropped other hold
  · exact hsenders.trans (h.severed hdropped sessionChannel (List.mem_of_getElem? hchannel))

theorem Tended.set_tracked (h : connection.Tended) {session : Session} (hsession : session.Tracked)
    (index : Nat) : ∀ other ∈ connection.sessions.set index session, other.Tracked := by
  intro other hother
  rcases List.mem_or_eq_of_mem_set hother with hold | rfl
  · exact h.tracked other hold
  · exact hsession

theorem Tended.step (h : connection.Tended) (hstep : Step connection action next) :
    next.Tended := by
  refine ⟨hstep.sessions_ids h.ids, ?_, ?_⟩
  · cases hstep with
    | manage action manager event hpresent howner hstep =>
        intro session hmem
        rcases List.mem_append.mp hmem with hold | hnew
        · exact h.tracked session hold
        · obtain ⟨sessionId, -, rfl⟩ := List.mem_map.mp hnew
          exact Session.tracked_new sessionId
    | start index request session sessionChannel hsession =>
        apply h.set_tracked
        rw [Session.Tracked, Session.stakes_sendAccountingRequest]
        exact h.tracked session (List.mem_of_getElem? hsession)
    | poll index callIndex poll session polled sessionChannel duplexChannel hsession hchannel
        hpoll =>
        obtain ⟨call, hcall, hpolled⟩ := Session.poll_eq_some hpoll
        exact h.set_tracked ((h.tracked session (List.mem_of_getElem? hsession)).polled hcall
          hpolled) index
    | dropSession | takeOutgoing | closeOutgoing | dropConnection => exact h.tracked
  · cases hstep with
    | manage action manager event hpresent => simp [hpresent]
    | poll index callIndex poll session polled sessionChannel duplexChannel hsession hchannel
        hpoll =>
        obtain ⟨call, -, hpolled⟩ := Session.poll_eq_some hpoll
        exact h.set_severed hchannel hpolled.receiver_ends.1
    | dropSession index session sessionChannel hsession hover hchannel =>
        exact h.set_severed hchannel rfl
    | start | takeOutgoing | closeOutgoing => exact h.severed
    | dropConnection => simp [Channel.dropSenders]

theorem Tended.complete (h : connection.Tended) {session : Session}
    (hsession : connection.sessions[index]? = some session) :
    Tended { connection with sessions := connection.sessions.set index session.complete } where
  ids := (map_set_of_eq Session.sessionId hsession (by rfl)).trans h.ids
  tracked := by
    apply h.set_tracked
    exact h.tracked session (List.mem_of_getElem? hsession)
  severed := h.severed

theorem Tended.queue (h : connection.Tended) {request : Packet}
    (hroom : connection.sessionManager.outgoing.HasRoom) :
    Tended { connection with sessionManager := { connection.sessionManager with
      outgoing := connection.sessionManager.outgoing.push request hroom } } :=
  ⟨h.ids, h.tracked, h.severed⟩

/-- No step of the manager makes a call wait. -/
theorem Tended.waits_manage (h : connection.Tended) {action : SessionManager.Action}
    {manager : SessionManager} {event : SessionManager.Event} (howner : action.byOwner = false)
    (hstep : SessionManager.Step connection.sessionManager action manager event)
    (hwaits : Waits { connection with
      sessionManager := manager
      sessions := connection.sessions ++ event.registeredIds.map Session.new } index callIndex) :
    connection.Waits index callIndex := by
  obtain ⟨session, call, sessionChannel, hsession, hcall, hphase, hchannel, hpending⟩ := hwaits
  have hold := getElem?_of_call hsession hcall
  refine ⟨session, call, sessionChannel, hold, hcall, hphase, ?_, hpending⟩
  cases hstep with
  | create | permit | refuse | cancel | disable | lookup | reject | fail => exact hchannel
  | register call draws sessionId =>
      have hindex := (List.getElem?_eq_some_iff.mp hold).1
      rw [length_eq_of_ids h.ids] at hindex
      rwa [List.getElem?_append_left hindex] at hchannel
  | deliver packet position channel hsending hposition hopen hroom =>
      rcases getElem?_set_cases hchannel with ⟨-, rfl⟩ | ⟨-, hkept⟩
      · have hempty := (Channel.recv_eq_pending_iff.mp hpending).1
        simp [Channel.queue_push] at hempty
      · exact hkept
  | receive | drop => simp [SessionManager.Action.byOwner] at howner

/-- A call begins to wait by its own poll only, and only when nothing is there for it. -/
theorem Tended.waits_cases (h : connection.Tended) (hstep : Step connection action next)
    (hwaits : next.Waits index callIndex) :
    connection.Waits index callIndex ∨
      action = .poll index callIndex .acquire ∧ connection.Unanswered index := by
  cases hstep with
  | manage action manager event hpresent howner hstep =>
      exact .inl (h.waits_manage howner hstep hwaits)
  | start other request started startedChannel hstarted =>
      obtain ⟨session, call, sessionChannel, hsession, hcall, hphase, hchannel⟩ := hwaits
      rcases getElem?_set_cases hsession with ⟨rfl, rfl⟩ | ⟨-, hold⟩
      · rcases getElem?_append_singleton_cases hcall with ⟨-, rfl⟩ | hkept
        · simp at hphase
        · exact .inl ⟨started, call, sessionChannel, hstarted, hkept, hphase, hchannel⟩
      · exact .inl ⟨session, call, sessionChannel, hold, hcall, hphase, hchannel⟩
  | poll other polledIndex poll polling polled pollingChannel duplexChannel hpolling
      hpollingChannel hpoll =>
      obtain ⟨running, hrunning, hpolled⟩ := Session.poll_eq_some hpoll
      obtain ⟨session, call, sessionChannel, hsession, hcall, hphase, hchannel, hpending⟩ := hwaits
      rcases getElem?_set_cases hchannel with ⟨rfl, rfl⟩ | ⟨hne, hold⟩
      · obtain rfl : polled = session := by
          simpa [getElem?_set_of_some hpolling] using hsession
        rcases hpolled.receiving_cases hcall hphase with ⟨hother, hkept⟩ | ⟨rfl, rfl, rfl⟩
        · have htracked := h.tracked polling (List.mem_of_getElem? hpolling)
          have hreceiver := hpolled.receiver_eq_of_ne_receiving fun hreceiving =>
            hother (htracked.receiving_unique hkept hphase hrunning hreceiving)
          rw [hreceiver] at hpending
          exact .inl ⟨polling, call, pollingChannel, hpolling, hkept, hphase, hpollingChannel,
            hpending⟩
        · exact .inr ⟨rfl, pollingChannel, hpollingChannel, hpending⟩
      · rw [List.getElem?_set_ne hne.symm] at hsession
        exact .inl ⟨session, call, sessionChannel, hsession, hcall, hphase, hold, hpending⟩
  | dropSession other dropped droppedChannel hdropped hover hdroppedChannel =>
      obtain ⟨session, call, sessionChannel, hsession, hcall, hphase, hchannel, hpending⟩ := hwaits
      rcases getElem?_set_cases hchannel with ⟨rfl, rfl⟩ | ⟨-, hold⟩
      · have hempty := Channel.recv_eq_pending_iff.mp hpending
        exact .inl ⟨session, call, droppedChannel, hsession, hcall, hphase, hdroppedChannel,
          Channel.recv_eq_pending_iff.mpr hempty⟩
      · exact .inl ⟨session, call, sessionChannel, hsession, hcall, hphase, hold, hpending⟩
  | takeOutgoing | closeOutgoing => exact .inl hwaits
  | dropConnection =>
      obtain ⟨session, call, sessionChannel, -, -, -, hchannel, hpending⟩ := hwaits
      rw [List.getElem?_map, Option.map_eq_some_iff] at hchannel
      obtain ⟨before, -, rfl⟩ := hchannel
      have hconnected := (Channel.recv_eq_pending_iff.mp hpending).2
      simp [Channel.dropSenders] at hconnected

theorem Tended.waits_of_ne (h : connection.Tended) (hstep : Step connection action next)
    (haction : action ≠ .poll index callIndex .acquire)
    (hwaits : next.Waits index callIndex) : connection.Waits index callIndex :=
  (h.waits_cases hstep hwaits).resolve_right fun hbegins => haction hbegins.1

/-- A call that takes the receiver's lock over an empty channel waits. -/
theorem Step.waits_of_acquire
    (hstep : Step connection (.poll index callIndex .acquire) next)
    (hidle : connection.Unanswered index) : next.Waits index callIndex := by
  obtain ⟨sessionChannel, hchannel, hpending⟩ := hidle
  cases hstep with
  | poll _ _ _ session polled polledChannel duplexChannel hsession hpolledChannel hpoll =>
      obtain rfl : polledChannel = sessionChannel :=
        Option.some.inj (hpolledChannel.symm.trans hchannel)
      obtain ⟨call, hcall, hpolled⟩ := Session.poll_eq_some hpoll
      cases hpolled with
      | acquire hphase hcan =>
          exact ⟨_, _, _, getElem?_set_of_some hsession _, getElem?_set_of_some hcall _, rfl,
            getElem?_set_of_some hchannel _, hpending⟩

theorem Step.outgoing_of_acquire (hstep : Step connection (.poll index callIndex .acquire) next) :
    next.sessionManager.outgoing = connection.sessionManager.outgoing := by
  cases hstep with
  | poll _ _ _ session polled sessionChannel duplexChannel hsession hchannel hpoll =>
      obtain ⟨call, hcall, hpolled⟩ := Session.poll_eq_some hpoll
      cases hpolled with
      | acquire => rfl

/-- Only the writer takes packets from the outgoing queue. -/
theorem Step.mem_outgoing_queue (hstep : Step connection action next)
    (haction : action ≠ .takeOutgoing) {packet : Packet}
    (hqueued : packet ∈ connection.sessionManager.outgoing.queue) :
    packet ∈ next.sessionManager.outgoing.queue := by
  rcases hstep.outgoing_cases with hsame | ⟨added, hsend⟩ | ⟨htake, -⟩ | ⟨-, hclose⟩
  · rwa [hsame]
  · obtain ⟨-, hroom, hpush⟩ := Channel.send_eq_sent_iff.mp hsend
    rw [hpush, Channel.queue_push]
    exact List.mem_append_left _ hqueued
  · exact absurd htake haction
  · rw [hclose]
    exact hqueued

/-- As long as a call waits, the connection is there. -/
theorem Waits.present (h : connection.Waits index callIndex) (htended : connection.Tended) :
    connection.dropped = false := by
  obtain ⟨session, call, sessionChannel, -, -, -, hchannel, hpending⟩ := h
  by_contra hdropped
  have hsevered := htended.severed (Bool.of_not_eq_false hdropped) sessionChannel
    (List.mem_of_getElem? hchannel)
  exact Bool.false_ne_true ((Channel.recv_eq_pending_iff.mp hpending).2.symm.trans hsevered)

end Connection

namespace RunningConnection

variable {md5 : List UInt8 → Digest} {obfuscationKey : Option (List UInt8)}
  {running next : RunningConnection} {action : Action}

/-- The reader is over, nothing goes on by itself, and a call still waits. -/
def Stranded (md5 : List UInt8 → Digest) (obfuscationKey : Option (List UInt8))
    (running : RunningConnection) : Prop :=
  (∃ result, running.readTask = .ended result) ∧ running.Quiescent md5 obfuscationKey ∧
    ∃ index callIndex, running.connection.Waits index callIndex

/-- Whatever the tasks and the handler do by themselves, they strand no call. -/
def Releases (md5 : List UInt8 → Digest) (obfuscationKey : Option (List UInt8))
    (running : RunningConnection) : Prop :=
  ∀ actions final, (∀ action ∈ actions, action.isInternal = true) →
    Rust.run (step md5 obfuscationKey) running actions = some final →
      ¬ final.Stranded md5 obfuscationKey

/-- Nobody but its tasks holds the connection, and the writer is over, or is to panic at a packet
of the queue: the connection will be freed with the end of its handler. -/
def FreesItself (md5 : List UInt8 → Digest) (obfuscationKey : Option (List UInt8))
    (running : RunningConnection) : Prop :=
  running.owned = false ∧ ((∃ result, running.writeTask = .ended result) ∨
    ∃ packet ∈ running.connection.sessionManager.outgoing.queue,
      obfuscateOutgoing md5 obfuscationKey packet = .panic)

/-- When the reader ends no call waits, and when it is over no call begins to wait, unless the
connection frees itself. -/
def LeavesNoCall (md5 : List UInt8 → Digest) (obfuscationKey : Option (List UInt8))
    (running : RunningConnection) : Action → Prop
  | .readEnd _ => ∀ index callIndex, running.connection.Waits index callIndex →
      running.FreesItself md5 obfuscationKey
  | .readFailed _ => ∀ index callIndex, running.connection.Waits index callIndex →
      running.FreesItself md5 obfuscationKey
  | .owner (.poll index _ .acquire) => (∃ result, running.readTask = .ended result) →
      running.connection.Unanswered index → running.FreesItself md5 obfuscationKey
  | _ => True

/-- Every such step that is taken does so. -/
def NoticesWaits (md5 : List UInt8 → Digest) (obfuscationKey : Option (List UInt8))
    (running : RunningConnection) (action : Action) : Prop :=
  (running.step md5 obfuscationKey action).isSome = true →
    running.LeavesNoCall md5 obfuscationKey action

theorem leavesNoCall_of_isInternal (h : action.isInternal = true) :
    running.LeavesNoCall md5 obfuscationKey action := by
  cases action with
  | finishSend | takeOutgoing | written | writeFailed | join | disableNewSessions
  | dropConnection => trivial
  | run | owner | completeSession | queueRequest | dropArc | readFrame | readEnd | readFailed =>
      simp [Action.isInternal] at h

/-- A connection that is to free itself stays one, whatever happens to it. -/
theorem FreesItself.step (h : running.FreesItself md5 obfuscationKey)
    (hstep : Step md5 obfuscationKey running action next) :
    next.FreesItself md5 obfuscationKey := by
  obtain ⟨howned, hends⟩ := h
  have hkept {connection : Connection} {connectionAction : Connection.Action}
      (hnext : Connection.Step running.connection connectionAction connection)
      (haction : connectionAction ≠ .takeOutgoing) :
      (∃ result, running.writeTask = .ended result) ∨
        ∃ packet ∈ connection.sessionManager.outgoing.queue,
          obfuscateOutgoing md5 obfuscationKey packet = .panic :=
    hends.imp_right fun ⟨packet, hqueued, hpanics⟩ =>
      ⟨packet, hnext.mem_outgoing_queue haction hqueued, hpanics⟩
  cases hstep with
  | run _ hheld => simp [howned] at hheld
  | owner action connection howner harc hnext =>
      refine ⟨howned, hkept hnext ?_⟩
      rintro rfl
      simp [Connection.Action.byOwner] at howner
  | completeSession | skip | endRead | joinPanicked | join => exact ⟨howned, hends⟩
  | dropArc => exact ⟨rfl, hends⟩
  | queueRequest index request hopen hroom =>
      refine ⟨howned, hends.imp_right fun ⟨packet, hqueued, hpanics⟩ => ⟨packet, ?_, hpanics⟩⟩
      rw [Channel.queue_push]
      exact List.mem_append_left _ hqueued
  | forward frame packet connection hrunning hidle hround hforward =>
      exact ⟨howned, hkept hforward (by simp)⟩
  | finishSend connection hrunning hfinish => exact ⟨howned, hkept hfinish (by simp)⟩
  | takeOutgoing taken written outgoing connection hreceiving hrecv hwritten htake =>
      refine ⟨howned, .inr ?_⟩
      rcases hends with ⟨result, hended⟩ | ⟨packet, hqueued, hpanics⟩
      · simp [hreceiving] at hended
      obtain ⟨hnonempty, hqueue, rfl⟩ := Channel.recv_eq_received_iff.mp hrecv
      cases htake with
      | takeOutgoing =>
          rw [hqueue] at hqueued
          rcases List.mem_cons.mp hqueued with rfl | hrest
          · simp [hpanics] at hwritten
          · exact ⟨packet, hrest, hpanics⟩
  | takePanicked | outgoingClosed | writeFailed => exact ⟨howned, .inl ⟨_, rfl⟩⟩
  | written bytes hwriting =>
      refine ⟨howned, hends.imp_left fun ⟨result, hended⟩ => ?_⟩
      simp [hwriting] at hended
  | disableNewSessions writeResult readResult connection hdisabling hdisable =>
      exact ⟨howned, hkept hdisable (by simp)⟩
  | dropConnection connection _ hread hwrite hhandler hdrop =>
      refine ⟨howned, hends.imp_right fun ⟨packet, hqueued, hpanics⟩ => ⟨packet, ?_, hpanics⟩⟩
      exact hdrop.mem_outgoing_queue (by simp) hqueued

/-- As long as a connection that is to free itself is there, its tasks or its handler go on. -/
theorem FreesItself.not_quiescent (h : running.FreesItself md5 obfuscationKey)
    (hconsistent : running.Consistent) {result : Outcome Unit}
    (hended : running.readTask = .ended result) (hpresent : running.connection.dropped = false) :
    ¬ running.Quiescent md5 obfuscationKey := by
  intro hquiescent
  have hrest := hconsistent.quiescent_iff.mp hquiescent
  have hcalled : running.handler ≠ .notCalled := by
    intro hnotCalled
    simp [(hconsistent.notSpawned hnotCalled).1] at hended
  obtain ⟨howned, hends⟩ := h
  cases hwrite : running.writeTask with
  | notSpawned => exact (hconsistent.spawned hcalled).2 hwrite
  | receiving =>
      rcases hends with ⟨other, hother⟩ | ⟨packet, hqueued, -⟩
      · simp [hwrite] at hother
      · simp [hrest.takeOutgoing hwrite] at hqueued
  | writing bytes => exact hrest.written bytes hwrite
  | ended writeResult =>
      cases hhandler : running.handler with
      | notCalled => exact hcalled hhandler
      | joining => exact (hrest.join hhandler).2 writeResult result hwrite hended
      | disabling => exact hrest.disable _ _ hhandler
      | returned =>
          have hgone := hrest.free (by simp [unheld, howned, hwrite, hended, hhandler,
            ReadTask.isOver, WriteTask.isOver, Handler.isOver])
          exact Bool.false_ne_true (hpresent.symm.trans hgone)

/-- Once the reader is over, no call waits but on a connection that frees itself. -/
structure Released (md5 : List UInt8 → Digest) (obfuscationKey : Option (List UInt8))
    (running : RunningConnection) : Prop where
  consistent : running.Consistent
  tended : running.connection.Tended
  released : ∀ result, running.readTask = .ended result → ∀ index callIndex,
    running.connection.Waits index callIndex → running.FreesItself md5 obfuscationKey

theorem released_new : Released md5 obfuscationKey new where
  consistent := consistent_new
  tended := Connection.tended_new
  released := by simp [new]

/-- A call begins to wait by its own poll only, and only when nothing is there for it. -/
theorem Step.waits_cases (hstep : Step md5 obfuscationKey running action next)
    (h : running.connection.Tended) {index callIndex : Nat}
    (hwaits : next.connection.Waits index callIndex) :
    running.connection.Waits index callIndex ∨
      action = .owner (.poll index callIndex .acquire) ∧ running.connection.Unanswered index := by
  cases hstep with
  | run | dropArc | skip | endRead | written | writeFailed | outgoingClosed | joinPanicked | join =>
      exact .inl hwaits
  | queueRequest => exact .inl (hwaits.congr rfl rfl)
  | owner action connection howner harc howned =>
      rcases h.waits_cases howned hwaits with hbefore | ⟨rfl, hidle⟩
      · exact .inl hbefore
      · exact .inr ⟨rfl, hidle⟩
  | completeSession other session hsession =>
      obtain ⟨waiting, call, sessionChannel, hwaiting, hcall, hrest⟩ := hwaits
      rcases getElem?_set_cases hwaiting with ⟨rfl, rfl⟩ | ⟨-, hold⟩
      · exact .inl ⟨session, call, sessionChannel, hsession, hcall, hrest⟩
      · exact .inl ⟨waiting, call, sessionChannel, hold, hcall, hrest⟩
  | forward frame packet connection hrunning hidle hround hforward =>
      exact .inl (h.waits_of_ne hforward (by simp) hwaits)
  | finishSend connection hrunning hfinish => exact .inl (h.waits_of_ne hfinish (by simp) hwaits)
  | takeOutgoing packet written outgoing connection hreceiving hrecv hwritten htake =>
      exact .inl (h.waits_of_ne htake (by simp) hwaits)
  | takePanicked packet outgoing connection hreceiving hrecv hpanicked htake =>
      exact .inl (h.waits_of_ne htake (by simp) hwaits)
  | disableNewSessions writeResult readResult connection hdisabling hdisable =>
      exact .inl (h.waits_of_ne hdisable (by simp) hwaits)
  | dropConnection connection howned hread hwrite hhandler hdrop =>
      have hclosed := (h.step .closeOutgoing).waits_of_ne hdrop (by simp) hwaits
      exact .inl (hclosed.congr rfl rfl)

/-- The network ends the reader. -/
theorem Step.ended_cases (hstep : Step md5 obfuscationKey running action next)
    {result : Outcome Unit} (hended : next.readTask = .ended result) :
    running.readTask = .ended result ∨
      (∃ rest, action = .readEnd rest) ∨ ∃ error, action = .readFailed error := by
  cases hstep with
  | run => simp at hended
  | endRead _ error haction => exact .inr (haction.imp_right fun hfailed => ⟨error, hfailed⟩)
  | owner | completeSession | queueRequest | dropArc | forward | skip | finishSend | takeOutgoing
  | takePanicked | outgoingClosed | written | writeFailed | joinPanicked | join
  | disableNewSessions | dropConnection => exact .inl hended

theorem Released.step (h : running.Released md5 obfuscationKey)
    (hleaves : running.LeavesNoCall md5 obfuscationKey action)
    (hstep : Step md5 obfuscationKey running action next) :
    next.Released md5 obfuscationKey where
  consistent := h.consistent.step hstep
  tended := hstep.invariant (fun _ _ _ hbefore hstep => hbefore.step hstep)
    (fun _ _ _ hbefore hsession => hbefore.complete hsession)
    (fun _ _ hbefore _ hroom => hbefore.queue hroom) h.tended
  released := by
    intro result hended index callIndex hwaits
    apply FreesItself.step _ hstep
    rcases hstep.waits_cases h.tended hwaits with hbefore | ⟨rfl, hidle⟩
    · rcases hstep.ended_cases hended with hsame | ⟨rest, rfl⟩ | ⟨error, rfl⟩
      · exact h.released result hsame index callIndex hbefore
      · exact hleaves index callIndex hbefore
      · exact hleaves index callIndex hbefore
    · have hsame := (hstep.ended_cases hended).resolve_right (by simp)
      exact hleaves ⟨result, hsame⟩ hidle

theorem Released.not_stranded (h : running.Released md5 obfuscationKey) :
    ¬ running.Stranded md5 obfuscationKey := by
  rintro ⟨⟨result, hended⟩, hquiescent, index, callIndex, hwaits⟩
  have hfrees := h.released result hended index callIndex hwaits
  exact hfrees.not_quiescent h.consistent hended (hwaits.present h.tended) hquiescent

theorem Released.releases (h : running.Released md5 obfuscationKey) :
    running.Releases md5 obfuscationKey := by
  intro actions final hinternal hrun
  have hmeets : Meets (RunningConnection.step md5 obfuscationKey)
      (LeavesNoCall md5 obfuscationKey) running actions :=
    meets_of_forall fun action haction mid => leavesNoCall_of_isInternal (hinternal action haction)
  apply Released.not_stranded
  apply invariant_of_meets h _ hmeets hrun
  exact fun mid action next hmid hleaves hnext => hmid.step hleaves (step_eq_some hnext)

/-- A call waits and the reader is over. -/
structure Waiting (index callIndex : Nat) (running : RunningConnection) : Prop where
  consistent : running.Consistent
  ended : ∃ result, running.readTask = .ended result
  waits : running.connection.Waits index callIndex

/-- How far the write task and the handler are from their ends. -/
def rank (running : RunningConnection) : Nat :=
  (match running.writeTask with
    | .receiving => 2
    | .writing _ => 1
    | _ => 0) +
  match running.handler with
    | .joining => 2
    | .disabling _ _ => 1
    | _ => 0

section Owned

variable {index callIndex : Nat}

/-- What goes on without the reader comes to its end, and as long as the connection has its owner
the call goes on waiting. -/
theorem Waiting.step_of_owned (h : running.Waiting index callIndex) (howned : running.owned = true)
    (hinternal : action.isInternal = true) (hunwritten : action ≠ .written)
    (hstep : Step md5 obfuscationKey running action next) :
    next.Waiting index callIndex ∧ next.owned = true ∧ next.rank < running.rank := by
  have hconsistent := h.consistent.step hstep
  obtain ⟨result, hended⟩ := h.ended
  cases hstep with
  | run | owner | completeSession | queueRequest | dropArc | forward | skip =>
      simp [Action.isInternal] at hinternal
  | endRead _ error haction hrunning => simp [hended] at hrunning
  | finishSend connection hrunning => simp [hended] at hrunning
  | takeOutgoing packet written outgoing connection hreceiving hrecv hwritten htake =>
      refine ⟨⟨hconsistent, h.ended, ?_⟩, howned, by simp [rank, hreceiving]⟩
      cases htake with
      | takeOutgoing => exact h.waits.congr rfl rfl
  | takePanicked packet outgoing connection hreceiving hrecv hpanicked htake =>
      refine ⟨⟨hconsistent, h.ended, ?_⟩, howned, by simp [rank, endWrite, hreceiving]⟩
      cases htake with
      | takeOutgoing => exact h.waits.congr rfl rfl
  | outgoingClosed hreceiving =>
      exact ⟨⟨hconsistent, h.ended, h.waits⟩, howned, by simp [rank, endWrite, hreceiving]⟩
  | written => exact absurd rfl hunwritten
  | writeFailed bytes error hwriting =>
      exact ⟨⟨hconsistent, h.ended, h.waits⟩, howned, by simp [rank, endWrite, hwriting]⟩
  | joinPanicked hjoining =>
      exact ⟨⟨hconsistent, h.ended, h.waits⟩, howned, by simp [rank, hjoining]⟩
  | join writeResult readResult hjoining =>
      exact ⟨⟨hconsistent, h.ended, h.waits⟩, howned, by simp [rank, hjoining]⟩
  | disableNewSessions writeResult readResult connection hdisabling hdisable =>
      refine ⟨⟨hconsistent, h.ended, ?_⟩, howned, by simp [rank, hdisabling]⟩
      cases hdisable with
      | manage _ manager event hpresent howner hdisable =>
          cases hdisable with
          | disable =>
              refine Connection.Waits.congr ?_ ?_ h.waits
              · simp [SessionManager.Event.registeredIds]
              · rfl
  | dropConnection connection hdropped => simp [howned] at hdropped

/-- A connection that goes on has a step that is not the end of a successful write. -/
theorem exists_internal_step (h : ¬ running.Quiescent md5 obfuscationKey) :
    ∃ action next, action.isInternal = true ∧ action ≠ .written ∧
      running.step md5 obfuscationKey action = some next := by
  simp only [Quiescent, not_forall] at h
  obtain ⟨action, hinternal, hsome⟩ := h
  obtain ⟨next, hnext⟩ := Option.ne_none_iff_exists'.mp hsome
  by_cases hwritten : action = .written
  · subst hwritten
    cases step_eq_some hnext with
    | endRead _ error haction => simp at haction
    | written bytes hwriting =>
        refine ⟨.writeFailed .unexpectedEof, running.endWrite (.err .unexpectedEof), rfl, by simp,
          ?_⟩
        simp only [RunningConnection.step, writeFailed, hwriting]
  · exact ⟨action, next, hinternal, hwritten, hnext⟩

theorem Waiting.not_releases_of_owned (h : running.Waiting index callIndex)
    (howned : running.owned = true) : ¬ running.Releases md5 obfuscationKey := by
  intro hreleases
  have hprogress (mid : RunningConnection)
      (hmid : mid.Waiting index callIndex ∧ mid.owned = true)
      (hgoes : ¬ mid.Quiescent md5 obfuscationKey) : ∃ action next,
        action.isInternal = true ∧ mid.step md5 obfuscationKey action = some next ∧
          (next.Waiting index callIndex ∧ next.owned = true) ∧ next.rank < mid.rank := by
    obtain ⟨action, next, hinternal, hunwritten, hnext⟩ := exists_internal_step hgoes
    obtain ⟨hwaiting, hheld, hless⟩ :=
      hmid.1.step_of_owned hmid.2 hinternal hunwritten (step_eq_some hnext)
    exact ⟨action, next, hinternal, hnext, ⟨hwaiting, hheld⟩, hless⟩
  obtain ⟨actions, final, hactions, hrun, ⟨hfinal, -⟩, hrest⟩ :=
    exists_run_to_rest rank hprogress ⟨h, howned⟩
  exact hreleases actions final hactions hrun
    ⟨hfinal.ended, hrest, index, callIndex, hfinal.waits⟩

end Owned

section Unowned

variable {index callIndex : Nat}

/-- How many steps of the write task the queued packets take. -/
def writeRank (running : RunningConnection) : Nat :=
  2 * running.connection.sessionManager.outgoing.queue.length +
    match running.writeTask with
    | .writing _ => 1
    | _ => 0

/-- A call waits, the reader is over, and the writer goes on and will not panic. -/
structure Writing (md5 : List UInt8 → Digest) (obfuscationKey : Option (List UInt8))
    (index callIndex : Nat) (running : RunningConnection) : Prop where
  waiting : running.Waiting index callIndex
  going : ∀ result, running.writeTask ≠ .ended result
  written : ∀ packet ∈ running.connection.sessionManager.outgoing.queue,
    obfuscateOutgoing md5 obfuscationKey packet ≠ .panic

/-- The writer takes the next packet, which does not make it panic. -/
theorem Writing.take (h : running.Writing md5 obfuscationKey index callIndex)
    (hnext : running.step md5 obfuscationKey .takeOutgoing = some next) :
    next.Writing md5 obfuscationKey index callIndex ∧ next.writeRank < running.writeRank := by
  have hstep := step_eq_some hnext
  have hconsistent := h.waiting.consistent.step hstep
  cases hstep with
  | endRead _ error haction => simp at haction
  | takeOutgoing packet written outgoing connection hreceiving hrecv hwritten htake =>
      obtain ⟨hnonempty, hqueue, rfl⟩ := Channel.recv_eq_received_iff.mp hrecv
      cases htake with
      | takeOutgoing =>
          refine ⟨⟨⟨hconsistent, h.waiting.ended, h.waiting.waits.congr rfl rfl⟩, by simp, ?_⟩, ?_⟩
          · exact fun other hother => h.written other (hqueue ▸ List.mem_cons_of_mem _ hother)
          · simp only [writeRank, hqueue, hreceiving, List.length_cons]
            omega
  | takePanicked packet outgoing connection hreceiving hrecv hpanicked =>
      obtain ⟨-, hqueue, -⟩ := Channel.recv_eq_received_iff.mp hrecv
      exact absurd hpanicked (h.written packet (by simp [hqueue]))
  | outgoingClosed hreceiving hclosed =>
      have hdropped := (Channel.recv_eq_closed_iff.mp hclosed).2
      simp [h.waiting.consistent.keepsSender] at hdropped

/-- A writer that goes on writes out the queue and then waits, and so does the call. -/
theorem Writing.not_releases (h : running.Writing md5 obfuscationKey index callIndex) :
    ¬ running.Releases md5 obfuscationKey := by
  intro hreleases
  have hprogress (mid : RunningConnection) (hmid : mid.Writing md5 obfuscationKey index callIndex)
      (hgoes : ¬ mid.Quiescent md5 obfuscationKey) : ∃ action next,
        action.isInternal = true ∧ mid.step md5 obfuscationKey action = some next ∧
          next.Writing md5 obfuscationKey index callIndex ∧ next.writeRank < mid.writeRank := by
    obtain ⟨hconsistent, ⟨result, hended⟩, hwaits⟩ := hmid.waiting
    cases hwrite : mid.writeTask with
    | notSpawned =>
        have hcalled : mid.handler ≠ .notCalled := by
          intro hnotCalled
          simp [(hconsistent.notSpawned hnotCalled).1] at hended
        exact absurd hwrite (hconsistent.spawned hcalled).2
    | receiving =>
        have hqueue : mid.connection.sessionManager.outgoing.queue ≠ [] := by
          intro hempty
          have hrest := hconsistent.atRest_of_idleWriter hended hwrite hempty
          exact hgoes (hconsistent.quiescent_iff.mpr hrest)
        have hsome : (mid.step md5 obfuscationKey .takeOutgoing).isSome = true :=
          hconsistent.takeOutgoing_isSome hwrite hqueue
        obtain ⟨next, hnext⟩ := Option.isSome_iff_exists.mp hsome
        exact ⟨_, next, rfl, hnext, hmid.take hnext⟩
    | writing bytes =>
        have hnext : mid.step md5 obfuscationKey .written =
            some { mid with writeTask := .receiving } := by
          simp [RunningConnection.step, RunningConnection.written, hwrite]
        have hafter := hconsistent.step (step_eq_some hnext)
        refine ⟨_, _, rfl, hnext, ⟨⟨hafter, ⟨result, hended⟩, hwaits⟩, by simp, hmid.written⟩, ?_⟩
        simp [writeRank, hwrite]
    | ended other => exact absurd hwrite (hmid.going other)
  obtain ⟨actions, final, hactions, hrun, hfinal, hrest⟩ := exists_run_to_rest writeRank hprogress h
  exact hreleases actions final hactions hrun
    ⟨hfinal.waiting.ended, hrest, index, callIndex, hfinal.waiting.waits⟩

end Unowned

/-- A call that waits when the reader is over is released by the end of the connection only. -/
theorem Waiting.freesItself {index callIndex : Nat} (h : running.Waiting index callIndex)
    (hreleases : running.Releases md5 obfuscationKey) :
    running.FreesItself md5 obfuscationKey := by
  cases howned : running.owned with
  | true => exact absurd hreleases (h.not_releases_of_owned howned)
  | false =>
      refine ⟨howned, ?_⟩
      by_contra hgoes
      push Not at hgoes
      exact Writing.not_releases ⟨h, hgoes.1, hgoes.2⟩ hreleases

/-- A step after which every waiting call can be released leaves no call. -/
theorem Consistent.leavesNoCall (h : running.Consistent)
    (hnext : running.step md5 obfuscationKey action = some next)
    (hreleases : next.Releases md5 obfuscationKey) :
    running.LeavesNoCall md5 obfuscationKey action := by
  have hstep := step_eq_some hnext
  have hconsistent := h.step hstep
  have hfrees (hended : ∃ result, next.readTask = .ended result) (index callIndex : Nat)
      (hwaits : next.connection.Waits index callIndex) : next.FreesItself md5 obfuscationKey :=
    Waiting.freesItself ⟨hconsistent, hended, hwaits⟩ hreleases
  cases hstep with
  | endRead _ error haction hrunning hidle =>
      have hleft := hfrees ⟨_, rfl⟩
      rcases haction with ⟨rest, rfl⟩ | rfl
      · exact hleft
      · exact hleft
  | owner action connection howner harc howned =>
      unfold LeavesNoCall
      split
      · next heq => simp at heq
      · next heq => simp at heq
      · next index callIndex heq =>
        obtain rfl := Action.owner.inj heq
        intro hended hidle
        have hleft := hfrees hended index callIndex (howned.waits_of_acquire hidle)
        simpa only [FreesItself, howned.outgoing_of_acquire] using hleft
      · trivial
  | run | completeSession | queueRequest | dropArc | forward | skip | finishSend | takeOutgoing
  | takePanicked | outgoingClosed | written | writeFailed | joinPanicked | join
  | disableNewSessions | dropConnection => trivial

/-- In every run, no call is or will be stranded in any state if and only if no call waits when
the reader ends and none begins to wait afterwards, but on a connection that frees itself: one
without an owner whose writer is over or is to panic. -/
theorem releases_throughout_iff (actions : List Action) :
    Throughout (step md5 obfuscationKey) (Releases md5 obfuscationKey) new actions ↔
      Meets (step md5 obfuscationKey) (NoticesWaits md5 obfuscationKey) new actions := by
  constructor
  · intro h before action hpre mid hmid hsome
    obtain ⟨next, hnext⟩ := Option.isSome_iff_exists.mp hsome
    apply (consistent_of_run hmid).leavesNoCall hnext
    exact h (before ++ [action]) hpre next (run_concat_eq_some_iff.mpr ⟨mid, hmid, hnext⟩)
  · intro h before hpre mid hmid
    apply Released.releases
    apply invariant_of_meets released_new _ (h.of_prefix hpre) hmid
    intro reached action next hreached hnotices hnext
    exact hreached.step (hnotices (by simp [hnext])) (step_eq_some hnext)

/-- A session is created, and a call sends its request and waits for the reply. -/
def waitingCallRun : List Connection.Action :=
  [.manage .createSession, .manage (.canCreateSessions 0), .manage (.createChannel 0 [7]),
    .sendAccountingRequest 0 Connection.requestOfCall] ++
    [.checkSender, .joinRead, .checkReceiver, .checkComplete, .draw, .send, .joinWrite,
      .acquire].map (.poll 0 0)

/-- The request is written, and the peer closes the connection without a reply. -/
def strandedRun : List Action :=
  [.run] ++ waitingCallRun.map .owner ++ [.takeOutgoing, .written, .readEnd []]

theorem strandedRun_strands :
    ∃ running, Rust.run (step noDigest none) new strandedRun = some running ∧
      running.Stranded noDigest none := by
  have htasks : (Rust.run (step noDigest none) new strandedRun).map (fun running =>
      (running.readTask, running.writeTask, running.connection.sessionManager.outgoing.queue)) =
      some (.ended (.err (.msg "early eof")), .receiving, []) := by decide +kernel
  have hsessions : (Rust.run (step noDigest none) new strandedRun).map (fun running =>
      ((running.connection.sessions[0]?.bind fun session => session.calls[0]?).map Call.phase,
        running.connection.sessionManager.sessions[0]?.map fun sessionChannel =>
          (sessionChannel.channel.queue, sessionChannel.channel.sendersDropped))) =
      some (some .receiving, some ([], false)) := by decide +kernel
  obtain ⟨running, hrun, hfields⟩ := Option.map_eq_some_iff.mp htasks
  simp only [Prod.mk.injEq] at hfields
  obtain ⟨hread, hwrite, hqueue⟩ := hfields
  rw [hrun, Option.map_some, Option.some.injEq, Prod.mk.injEq] at hsessions
  obtain ⟨hphase, hchannel⟩ := hsessions
  obtain ⟨call, hcall, hphase⟩ := Option.map_eq_some_iff.mp hphase
  obtain ⟨session, hsession, hcall⟩ := Option.bind_eq_some_iff.mp hcall
  obtain ⟨sessionChannel, hchannel, hends⟩ := Option.map_eq_some_iff.mp hchannel
  have hconsistent := consistent_of_run hrun
  have hrest := hconsistent.atRest_of_idleWriter hread hwrite hqueue
  exact ⟨running, hrun, ⟨_, hread⟩, hconsistent.quiescent_iff.mpr hrest, 0, 0, session, call,
    sessionChannel, hsession, hcall, hphase, hchannel,
    Channel.recv_eq_pending_iff.mpr (Prod.mk.inj hends)⟩

end RunningConnection

end TacacsRs.Networking
