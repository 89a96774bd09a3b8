import TacacsRs.Networking.AnsweredCalls
import TacacsRs.Networking.Exchange
import TacacsRs.Networking.RegistryGrowth

/-!
# No dead ends while the reader goes on

A state is a dead end when a call is in it that nothing can bring to an end but
the end of the connection, or the owner who gives it up. As long as the reader
goes on there is none: the network takes what is written, the peer sends what a
call waits for, and an owner who drops a session of which no call goes on frees
the reader from it.
-/

namespace TacacsRs.Networking

open Rust Messages

namespace Session

variable {session next : Session} {duplexChannel duplexChannel' : DuplexChannel} {index : Nat}
  {call : Call} {poll : Poll}

/-- Only its owner abandons a call. -/
theorem Polled.phase_ne_abandoned
    (h : Polled session duplexChannel index call poll next duplexChannel')
    (hpoll : poll ≠ .abandon) :
    ∃ call', next.calls = session.calls.set index call' ∧ call'.phase ≠ .abandoned := by
  cases h with
  | senderClosed | senderOpen | joinRead | receiverClosed | receiverOpen | complete | incomplete
  | queue | queueClosed | joinWrite | acquire | closed | reply | malformed | succeed =>
      exact ⟨_, rfl, by simp⟩
  | draw phase hphase hnext =>
      refine ⟨_, rfl, ?_⟩
      rcases hnext with ⟨packet, rfl, -⟩ | ⟨error, rfl⟩ | rfl
      · simp
      · simp
      · simp
  | abandon => exact absurd rfl hpoll

/-- A call can queue its packet unless the queue is full. -/
theorem canPoll_of_send {packet : Packet} (hcall : session.calls[index]? = some call)
    (hphase : call.phase = .sending packet)
    (hsend : duplexChannel.sender.send packet ≠ .pending) :
    session.CanPoll duplexChannel index := by
  by_contra hcannot
  have hstuck := stuck_of_not_canPoll hcall (by rw [hphase]; rfl) hcannot
  rw [hphase] at hstuck
  cases hstuck with
  | sending _ hfull => exact hsend hfull

/-- A call can take a packet unless none is there. -/
theorem canPoll_of_recv (hcall : session.calls[index]? = some call)
    (hphase : call.phase = .receiving) (hrecv : duplexChannel.receiver.recv ≠ .pending) :
    session.CanPoll duplexChannel index := by
  by_contra hcannot
  have hstuck := stuck_of_not_canPoll hcall (by rw [hphase]; rfl) hcannot
  rw [hphase] at hstuck
  cases hstuck with
  | receiving hpending => exact hrecv hpending

/-- No poll adds to the polls that the calls have before them. -/
theorem remaining_le (hcall : session.calls[index]? = some call)
    (h : Polled session duplexChannel index call poll next duplexChannel') :
    next.remaining ≤ session.remaining := by
  by_cases hpoll : poll = .abandon
  · subst hpoll
    cases h with
    | abandon =>
        have hsum := sum_map_set (fun call : Call => call.phase.remaining) hcall
          { call with phase := .abandoned }
        have hnone : CallPhase.abandoned.remaining = 0 := rfl
        dsimp only at hsum
        simp only [remaining, setCall, leaveLock]
        omega
  · exact (remaining_lt hcall h hpoll).le

theorem remaining_new (sessionId : UInt32) : (new sessionId).remaining = 0 := rfl

/-- A call that is not over has a poll before it. -/
theorem remaining_pos (hcall : session.calls[index]? = some call)
    (hgoing : call.phase.isOver = false) : 0 < session.remaining := by
  have hpos : 1 ≤ call.phase.remaining := by
    cases hphase : call.phase with
    | returned | abandoned => simp [hphase, CallPhase.isOver] at hgoing
    | _ => simp [CallPhase.remaining]
  exact length_le_sum_map (List.nodup_singleton index) (by simpa [hcall] using hpos)

end Session

namespace Connection

variable {connection next : Connection} {action : Action} {index callIndex : Nat} {call : Call}

/-- How many polls the calls have before them at most. -/
def remaining (connection : Connection) : Nat := (connection.sessions.map Session.remaining).sum

theorem remaining_pos {session : Session} (hsession : connection.sessions[index]? = some session)
    (hcall : session.calls[callIndex]? = some call) (hgoing : call.phase.isOver = false) :
    0 < connection.remaining := by
  have hpos := Session.remaining_pos hcall hgoing
  exact length_le_sum_map (List.nodup_singleton index)
    (by simpa [hsession] using Nat.succ_le_of_lt hpos)

/-- No call goes on. -/
def Over (connection : Connection) : Prop :=
  ∀ session ∈ connection.sessions, ∀ call ∈ session.calls, call.phase.isOver = true

theorem exists_going (h : ¬ connection.Over) : ∃ (index callIndex : Nat) (session : Session)
    (call : Call), connection.sessions[index]? = some session ∧
      session.calls[callIndex]? = some call ∧ call.phase.isOver = false := by
  simp only [Over, not_forall, Bool.not_eq_true] at h
  obtain ⟨session, hsession, call, hcall, hgoing⟩ := h
  obtain ⟨index, hindex⟩ := List.mem_iff_getElem?.mp hsession
  obtain ⟨callIndex, hcallIndex⟩ := List.mem_iff_getElem?.mp hcall
  exact ⟨index, callIndex, session, call, hindex, hcallIndex, hgoing⟩

theorem Over.remaining_eq_zero (h : connection.Over) : connection.remaining = 0 := by
  have hpolls {call : Call} (hover : call.phase.isOver = true) : call.phase.remaining = 0 := by
    cases hphase : call.phase with
    | returned | abandoned => rfl
    | _ => simp [hphase, CallPhase.isOver] at hover
  rw [remaining, List.sum_eq_zero_iff]
  intro polls hpollsOf
  obtain ⟨session, hsession, rfl⟩ := List.mem_map.mp hpollsOf
  rw [Session.remaining, List.sum_eq_zero_iff]
  intro polls hpollsOf
  obtain ⟨call, hcall, rfl⟩ := List.mem_map.mp hpollsOf
  exact hpolls (h session hsession call hcall)

/-- Only new calls add to the polls that there are. -/
theorem Step.remaining_le (hstep : Step connection action next)
    (haction : ∀ index request, action ≠ .sendAccountingRequest index request) :
    next.remaining ≤ connection.remaining := by
  cases hstep with
  | manage action manager event hpresent howner hstep =>
      have hnew : ((event.registeredIds.map Session.new).map Session.remaining).sum = 0 := by
        simp [Session.remaining_new, Function.comp_def]
      rw [remaining, List.map_append, List.sum_append, hnew]
      exact Nat.le_refl _
  | start index request => exact absurd rfl (haction index request)
  | poll index callIndex poll session polled sessionChannel duplexChannel hsession hchannel
      hpoll =>
      obtain ⟨call, hcall, hpolled⟩ := Session.poll_eq_some hpoll
      have hless := Session.remaining_le hcall hpolled
      have hsum := sum_map_set Session.remaining hsession polled
      simp only [remaining]
      omega
  | dropSession | takeOutgoing | closeOutgoing | dropConnection => exact Nat.le_refl _

/-- A call stays where it is, and only its owner abandons it. -/
theorem Step.callAt_kept (hstep : Step connection action next)
    (haction : ∀ index callIndex, action ≠ .poll index callIndex .abandon)
    (hcall : connection.callAt index callIndex = some call) :
    ∃ call', next.callAt index callIndex = some call' ∧
      (call'.phase = .abandoned → call.phase = .abandoned) := by
  obtain ⟨session, hsession, hcalls⟩ := callAt_eq_some_iff.mp hcall
  cases hstep with
  | manage action manager event hpresent howner hstep =>
      have hkept := getElem?_append_of_some hsession (event.registeredIds.map Session.new)
      exact ⟨call, callAt_eq_some_iff.mpr ⟨session, hkept, hcalls⟩, id⟩
  | start other request started sessionChannel hstarted =>
      refine ⟨call, ?_, id⟩
      rw [callAt_set hstarted rfl rfl]
      split
      · next heq =>
        subst heq
        obtain rfl := Option.some.inj (hstarted.symm.trans hsession)
        exact getElem?_append_of_some hcalls _
      · exact hcall
  | poll other otherCall poll polling polled sessionChannel duplexChannel hpolling hchannel
      hpoll =>
      obtain ⟨running, hrunning, hpolled⟩ := Session.poll_eq_some hpoll
      have hpollNe : poll ≠ .abandon := by
        rintro rfl
        exact haction other otherCall rfl
      obtain ⟨call', hcalls', hphase⟩ := hpolled.phase_ne_abandoned hpollNe
      rw [callAt_set hpolling rfl hcalls']
      split
      · next heq =>
        subst heq
        obtain rfl := Option.some.inj (hpolling.symm.trans hsession)
        by_cases hindex : otherCall = callIndex
        · subst hindex
          exact ⟨call', getElem?_set_of_some hrunning call', fun habandoned =>
            absurd habandoned hphase⟩
        · rw [List.getElem?_set_ne hindex]
          exact ⟨call, hcalls, id⟩
      · exact ⟨call, hcall, id⟩
  | dropSession | takeOutgoing | closeOutgoing | dropConnection => exact ⟨call, hcall, id⟩

/-- What becomes of another session does not matter to a call that waits. -/
theorem Waits.set_ne (h : connection.Waits index callIndex) {target : Nat}
    {sessionChannel : SessionChannel} (htarget : target ≠ index)
    (hsessions : next.sessions = connection.sessions)
    (hchannels : next.sessionManager.sessions =
      connection.sessionManager.sessions.set target sessionChannel) :
    next.Waits index callIndex := by
  rw [Waits, hsessions, hchannels, List.getElem?_set_ne htarget]
  exact h

end Connection

namespace RunningConnection

/-- What the tasks, the calls, the network and the owners do when all goes well: nothing ends the
tasks from outside, no call is given up, and sessions of which no call goes on are dropped. -/
def Action.isCooperative : Action → Bool
  | .run => true
  | .readFrame _ => true
  | .written => true
  | .owner (.dropSession _) => true
  | action => action.isLocal

/-- What holds between two states when only such steps lead from one to the other. -/
structure LeadsTo (running next : RunningConnection) : Prop where
  reader : running.readTask = .running → next.readTask = .running
  remaining : next.connection.remaining ≤ running.connection.remaining
  calls : ∀ index callIndex call, running.connection.callAt index callIndex = some call →
    ∃ call', next.connection.callAt index callIndex = some call' ∧
      (call'.phase = .abandoned → call.phase = .abandoned)

section LeadsTo

variable {md5 : List UInt8 → Digest} {obfuscationKey : Option (List UInt8)}
  {running mid next : RunningConnection} {action : Action} {actions : List Action}

theorem LeadsTo.refl (running : RunningConnection) : running.LeadsTo running :=
  ⟨id, Nat.le_refl _, fun _ _ call hcall => ⟨call, hcall, id⟩⟩

theorem LeadsTo.trans (hfirst : running.LeadsTo mid) (hsecond : mid.LeadsTo next) :
    running.LeadsTo next where
  reader := hsecond.reader ∘ hfirst.reader
  remaining := hsecond.remaining.trans hfirst.remaining
  calls := by
    intro index callIndex call hcall
    obtain ⟨before, hbefore, hfirstKept⟩ := hfirst.calls index callIndex call hcall
    obtain ⟨after, hafter, hsecondKept⟩ := hsecond.calls index callIndex before hbefore
    exact ⟨after, hafter, hfirstKept ∘ hsecondKept⟩

/-- A step of the connection that its owners have no part in but for polls and drops. -/
theorem LeadsTo.of_connection {connectionAction : Connection.Action}
    (hstep : Connection.Step running.connection connectionAction next.connection)
    (hreader : running.readTask = .running → next.readTask = .running)
    (hrequest : ∀ index request, connectionAction ≠ .sendAccountingRequest index request)
    (habandon : ∀ index callIndex, connectionAction ≠ .poll index callIndex .abandon) :
    running.LeadsTo next :=
  ⟨hreader, hstep.remaining_le hrequest, fun _ _ _ hcall => hstep.callAt_kept habandon hcall⟩

theorem Step.leadsTo (hstep : Step md5 obfuscationKey running action next)
    (hcooperative : action.isCooperative = true) : running.LeadsTo next := by
  have hquiet (hreader : running.readTask = .running → next.readTask = .running)
      (hsessions : next.connection.sessions = running.connection.sessions) :
      running.LeadsTo next := by
    refine ⟨hreader, ?_, fun index callIndex call hcall => ⟨call, ?_, id⟩⟩
    · rw [Connection.remaining, hsessions]
      exact Nat.le_refl _
    · rwa [Connection.callAt, hsessions]
  cases hstep with
  | run => exact hquiet (fun _ => rfl) rfl
  | skip | written | writeFailed | outgoingClosed | joinPanicked | join => exact hquiet id rfl
  | dropConnection connection howned hread hwrite hhandler hdrop =>
      cases hdrop with
      | dropConnection => exact hquiet id rfl
  | owner action connection howner harc howned =>
      cases action with
      | poll index callIndex poll =>
          refine .of_connection howned id (by simp) fun other otherCall heq => ?_
          obtain ⟨-, -, rfl⟩ := Connection.Action.poll.inj heq
          simp [Action.isCooperative, Action.isLocal] at hcooperative
      | dropSession => exact .of_connection howned id (by simp) (by simp)
      | manage | sendAccountingRequest | takeOutgoing | closeOutgoing | dropConnection =>
          simp [Action.isCooperative, Action.isLocal] at hcooperative
  | completeSession | queueRequest | dropArc =>
      simp [Action.isCooperative, Action.isLocal] at hcooperative
  | endRead _ error haction =>
      rcases haction with ⟨rest, rfl⟩ | rfl
      · simp [Action.isCooperative, Action.isLocal] at hcooperative
      · simp [Action.isCooperative, Action.isLocal] at hcooperative
  | forward frame packet connection hrunning hidle hround hforward =>
      exact .of_connection hforward id (by simp) (by simp)
  | finishSend connection hrunning hfinish => exact .of_connection hfinish id (by simp) (by simp)
  | takeOutgoing packet written outgoing connection hreceiving hrecv hwritten htake =>
      exact .of_connection htake id (by simp) (by simp)
  | takePanicked packet outgoing connection hreceiving hrecv hpanicked htake =>
      cases htake with
      | takeOutgoing => exact hquiet id rfl
  | disableNewSessions writeResult readResult connection hdisabling hdisable =>
      exact .of_connection hdisable id (by simp) (by simp)

theorem leadsTo_of_run (hactions : ∀ action ∈ actions, action.isCooperative = true)
    (hrun : Rust.run (step md5 obfuscationKey) running actions = some next) :
    running.LeadsTo next := by
  have hmeets : Meets (step md5 obfuscationKey) (fun _ action => action.isCooperative = true)
      running actions := meets_of_forall fun action haction _ => hactions action haction
  apply invariant_of_meets (LeadsTo.refl running) _ hmeets hrun
  exact fun mid action next hmid hcooperative hnext =>
    hmid.trans ((step_eq_some hnext).leadsTo hcooperative)

end LeadsTo

/-- The peer's packet for a session is read as it is, whatever the key. -/
theorem readRound_replyTo (md5 : List UInt8 → Digest) (obfuscationKey : Option (List UInt8))
    (sessionId : UInt32) :
    readRound md5 obfuscationKey (SessionManager.replyTo sessionId).toBytes =
      .next (some (SessionManager.replyTo sessionId)) [] := by
  have hclear := (Wire.clear_replyTo sessionId).2
  have hdeclared : (SessionManager.replyTo sessionId).header.flags.IsDeclared := by
    rw [hclear]
    decide
  have harrives : received md5 obfuscationKey (SessionManager.replyTo sessionId) =
      SessionManager.replyTo sessionId := by
    apply Wire.received_of_contains
    rw [hclear]
    decide
  have hbody : (SessionManager.replyTo sessionId).body.length =
      (SessionManager.replyTo sessionId).header.length.toNat := rfl
  have hread := readRound_of_accepted md5 obfuscationKey
    (Header.length_toBytes (SessionManager.replyTo sessionId).header)
    (Header.fromBytes_toBytes hdeclared) hbody []
  rw [List.append_nil] at hread
  exact hread.trans (congrArg (fun packet => Round.next (some packet) []) harrives)

section MovesOn

variable {md5 : List UInt8 → Digest} {obfuscationKey : Option (List UInt8)}
  {running next : RunningConnection} {action : Action} {actions : List Action}
  {index callIndex : Nat} {session : Session} {sessionChannel : SessionChannel} {call : Call}
  {packet : Packet}

/-- Such steps lead on to a state in which the calls have fewer polls before them. -/
def MovesOn (md5 : List UInt8 → Digest) (obfuscationKey : Option (List UInt8))
    (running : RunningConnection) : Prop :=
  ∃ leg next, (∀ action ∈ leg, action.isCooperative = true) ∧
    Rust.run (step md5 obfuscationKey) running leg = some next ∧
    next.connection.remaining < running.connection.remaining

theorem MovesOn.of_step (h : next.MovesOn md5 obfuscationKey)
    (hnext : running.step md5 obfuscationKey action = some next)
    (hcooperative : action.isCooperative = true) : running.MovesOn md5 obfuscationKey := by
  obtain ⟨leg, final, hleg, hrun, hless⟩ := h
  have hbefore := ((step_eq_some hnext).leadsTo hcooperative).remaining
  exact ⟨action :: leg, final, List.forall_mem_cons.mpr ⟨hcooperative, hleg⟩,
    (run_cons_of_step hnext leg).trans hrun, hless.trans_le hbefore⟩

/-- A call that can be polled moves on. -/
theorem movesOn_of_canPoll (hsession : running.connection.sessions[index]? = some session)
    (hchannel : running.connection.sessionManager.sessions[index]? = some sessionChannel)
    (hcan : session.CanPoll ⟨running.connection.sessionManager.outgoing, sessionChannel.channel⟩
      callIndex) : running.MovesOn md5 obfuscationKey := by
  obtain ⟨poll, hpoll, hsome⟩ := hcan
  obtain ⟨⟨polled, duplexChannel⟩, hpolled⟩ := Option.isSome_iff_exists.mp hsome
  obtain ⟨call, hcall, hstep⟩ := Session.poll_eq_some hpolled
  have hless := Session.remaining_lt hcall hstep hpoll
  have hsum := sum_map_set Session.remaining hsession polled
  have hcooperative : (Action.owner (.poll index callIndex poll)).isCooperative = true := by
    simpa [Action.isCooperative, Action.isLocal] using hpoll
  have hnext : running.step md5 obfuscationKey (.owner (.poll index callIndex poll)) =
      some { running with connection := { running.connection with
        sessionManager := { running.connection.sessionManager with
          outgoing := duplexChannel.sender
          sessions := running.connection.sessionManager.sessions.set index
            { sessionChannel with channel := duplexChannel.receiver } }
        sessions := running.connection.sessions.set index polled } } := by
    simp [step, ownerStep, Connection.Action.byOwner, Connection.Action.borrowsArc,
      Connection.step, Connection.pollCall, hsession, hchannel, hpolled]
  refine ⟨[.owner (.poll index callIndex poll)], _, by simpa using hcooperative,
    run_cons_of_step hnext [], ?_⟩
  simp only [Connection.remaining]
  omega

/-- A writer that takes the next packet makes room for the call's one, or is over. -/
theorem movesOn_of_receiving (hconsistent : running.Consistent)
    (hsession : running.connection.sessions[index]? = some session)
    (hchannel : running.connection.sessionManager.sessions[index]? = some sessionChannel)
    (hcall : session.calls[callIndex]? = some call) (hphase : call.phase = .sending packet)
    (hreceiving : running.writeTask = .receiving)
    (hfull : running.connection.sessionManager.outgoing.send packet = .pending) :
    running.MovesOn md5 obfuscationKey := by
  obtain ⟨-, hroom⟩ := Channel.send_eq_pending_iff.mp hfull
  have hqueue : running.connection.sessionManager.outgoing.queue ≠ [] :=
    fun hempty => hroom (Channel.hasRoom_of_queue_eq_nil hempty (by decide))
  have hsome : (running.step md5 obfuscationKey .takeOutgoing).isSome = true :=
    hconsistent.takeOutgoing_isSome hreceiving hqueue
  obtain ⟨next, hnext⟩ := Option.isSome_iff_exists.mp hsome
  refine MovesOn.of_step ?_ hnext rfl
  cases step_eq_some hnext with
  | endRead _ error haction => simp at haction
  | takeOutgoing taken written outgoing connection _ hrecv hwritten htake =>
      cases htake with
      | takeOutgoing hopen hnonempty =>
          refine movesOn_of_canPoll hsession hchannel (Session.canPoll_of_send hcall hphase ?_)
          exact fun hpending => (Channel.send_eq_pending_iff.mp hpending).2 Channel.HasRoom.of_pop
  | takePanicked taken outgoing connection _ hrecv hpanicked htake =>
      cases htake with
      | takeOutgoing hopen hnonempty =>
          refine movesOn_of_canPoll hsession hchannel (Session.canPoll_of_send hcall hphase ?_)
          simp [Channel.send_eq_pending_iff, endWrite, Connection.closeOutgoing]
  | outgoingClosed =>
      refine movesOn_of_canPoll hsession hchannel (Session.canPoll_of_send hcall hphase ?_)
      simp [Channel.send_eq_pending_iff, endWrite, Connection.closeOutgoing]

/-- A call that has no room for its packet moves on when the network takes what is written. -/
theorem movesOn_of_awaitsWriter (hconsistent : running.Consistent)
    (hreading : running.readTask = .running)
    (hsession : running.connection.sessions[index]? = some session)
    (hchannel : running.connection.sessionManager.sessions[index]? = some sessionChannel)
    (hcall : session.calls[callIndex]? = some call) (hawaits : running.AwaitsWriter call) :
    running.MovesOn md5 obfuscationKey := by
  obtain ⟨packet, hphase, hfull, hnotCalled | ⟨bytes, hwriting⟩⟩ := hawaits
  · simp [(hconsistent.notSpawned hnotCalled).1] at hreading
  · have hnext : running.step md5 obfuscationKey .written =
        some { running with writeTask := .receiving } := by
      simp [step, written, hwriting]
    refine MovesOn.of_step ?_ hnext rfl
    exact movesOn_of_receiving (hconsistent.step (step_eq_some hnext)) hsession hchannel hcall
      hphase rfl hfull

/-- The reader delivers to a session of which a call waits, and the call takes the packet. -/
theorem movesOn_of_delivery (hconsistent : running.Consistent)
    (hmatched : running.connection.Matched) (hreading : running.readTask = .running)
    (hwaits : running.connection.Waits index callIndex)
    (hsending : running.connection.sessionManager.sending = some (packet, index)) :
    running.MovesOn md5 obfuscationKey := by
  obtain ⟨session, call, sessionChannel, hsession, hcall, hphase, hchannel, hpending⟩ := hwaits
  obtain ⟨hempty, -⟩ := Channel.recv_eq_pending_iff.mp hpending
  have hopen : sessionChannel.channel.receiverDropped = false := by
    by_contra hdropped
    have hover := List.all_eq_true.mp (hmatched.finished index session sessionChannel hsession
      hchannel (Bool.of_not_eq_false hdropped)) call (List.mem_of_getElem? hcall)
    simp [hphase, CallPhase.isOver] at hover
  have hroom := Channel.hasRoom_of_queue_eq_nil hempty (by decide)
  have hsent : sessionChannel.channel.send packet =
      .sent (sessionChannel.channel.push packet hroom) :=
    Channel.send_eq_sent_iff.mpr ⟨hopen, hroom, rfl⟩
  have hpresent := hconsistent.present (.inl (by rw [hreading]; rfl))
  have hnext : running.step md5 obfuscationKey .finishSend =
      some { running with connection := { running.connection with
        sessionManager := { running.connection.sessionManager with
          sessions := running.connection.sessionManager.sessions.set index
            { sessionChannel with channel := sessionChannel.channel.push packet hroom }
          sending := none } } } := by
    simp [step, finishSend, hreading, Connection.step, Connection.manage, hpresent,
      SessionManager.Action.byOwner, SessionManager.step, SessionManager.finishSend, hsending,
      hchannel, hsent, SessionManager.Event.registeredIds]
  refine MovesOn.of_step ?_ hnext rfl
  refine movesOn_of_canPoll hsession (getElem?_set_of_some hchannel _)
    (Session.canPoll_of_recv hcall hphase ?_)
  simp [Channel.recv_eq_pending_iff, Channel.queue_push]

/-- The peer sends what a call waits for. -/
theorem movesOn_of_reply (hconsistent : running.Consistent) (hmatched : running.connection.Matched)
    (hregistered : running.connection.Registered) (hreading : running.readTask = .running)
    (hwaits : running.connection.Waits index callIndex)
    (hidle : running.connection.sessionManager.sending = none) :
    running.MovesOn md5 obfuscationKey := by
  have hwaiting := hwaits
  obtain ⟨session, -, -, hsession, -⟩ := hwaits
  have hpresent := hconsistent.present (.inl (by rw [hreading]; rfl))
  have hlookup : running.connection.sessionManager.duplexChannels.lookup session.sessionId =
      some index := by
    rw [hregistered.registered, ← hregistered.ids, List.getElem?_map, hsession, Option.map_some]
  have hmanager : running.connection.sessionManager.step
      (.sendMessageToSession (SessionManager.replyTo session.sessionId)) = some
        ({ running.connection.sessionManager with
          sending := some (SessionManager.replyTo session.sessionId, index) },
          .lookedUp (SessionManager.replyTo session.sessionId)) :=
    SessionManager.sendMessageToSession_of_lookup hidle hlookup
  have hnext : running.step md5 obfuscationKey
      (.readFrame (SessionManager.replyTo session.sessionId).toBytes) =
      some { running with connection := { running.connection with
        sessionManager := { running.connection.sessionManager with
          sending := some (SessionManager.replyTo session.sessionId, index) } } } := by
    simp [step, readFrame, readRound_replyTo, hreading, hidle, Connection.step,
      Connection.manage, hpresent, SessionManager.Action.byOwner, hmanager,
      SessionManager.Event.registeredIds]
  have hstep := step_eq_some hnext
  refine MovesOn.of_step ?_ hnext rfl
  exact movesOn_of_delivery (hconsistent.step hstep) (hstep.matched hmatched) hreading
    (hwaiting.congr rfl rfl) rfl

/-- The reader is done with a packet for a dropped session. -/
theorem movesOn_of_refusal (hconsistent : running.Consistent)
    (hmatched : running.connection.Matched) (hregistered : running.connection.Registered)
    (hreading : running.readTask = .running) (hwaits : running.connection.Waits index callIndex)
    {target : Nat}
    (hsending : running.connection.sessionManager.sending = some (packet, target))
    (hchannel : running.connection.sessionManager.sessions[target]? = some sessionChannel)
    (hdropped : sessionChannel.channel.receiverDropped = true) :
    running.MovesOn md5 obfuscationKey := by
  have hpresent := hconsistent.present (.inl (by rw [hreading]; rfl))
  have hclosed : sessionChannel.channel.send packet = .closed :=
    Channel.send_eq_closed_iff.mpr hdropped
  have hnext : running.step md5 obfuscationKey .finishSend =
      some { running with connection := { running.connection with
        sessionManager := { running.connection.sessionManager with sending := none } } } := by
    simp [step, finishSend, hreading, Connection.step, Connection.manage, hpresent,
      SessionManager.Action.byOwner, SessionManager.step, SessionManager.finishSend, hsending,
      hchannel, hclosed, SessionManager.Event.registeredIds]
  have hstep := step_eq_some hnext
  refine MovesOn.of_step ?_ hnext rfl
  exact movesOn_of_reply (hconsistent.step hstep) (hstep.matched hmatched)
    (hstep.registered hregistered) hreading (hwaits.congr rfl rfl) rfl

/-- An owner who drops a session of which no call goes on frees the reader from it. -/
theorem movesOn_of_drop (hconsistent : running.Consistent) (hmatched : running.connection.Matched)
    (hregistered : running.connection.Registered) (hreading : running.readTask = .running)
    (hwaits : running.connection.Waits index callIndex) {target : Nat} (htarget : target ≠ index)
    (hsending : running.connection.sessionManager.sending = some (packet, target))
    (hsession : running.connection.sessions[target]? = some session)
    (hchannel : running.connection.sessionManager.sessions[target]? = some sessionChannel)
    (hopen : sessionChannel.channel.receiverDropped = false)
    (hover : ∀ call ∈ session.calls, call.phase.isOver = true) :
    running.MovesOn md5 obfuscationKey := by
  have hall : (session.calls.all fun call => call.phase.isOver) = true := List.all_eq_true.mpr hover
  have hnext : running.step md5 obfuscationKey (.owner (.dropSession target)) =
      some { running with connection := { running.connection with
        sessionManager := { running.connection.sessionManager with
          sessions := running.connection.sessionManager.sessions.set target
            { sessionChannel with channel := sessionChannel.channel.dropReceiver } } } } := by
    simp only [step, ownerStep, Connection.Action.byOwner, Connection.Action.borrowsArc,
      Connection.step, Connection.dropSession, hsession, hall, SessionManager.step, hchannel,
      hopen, Bool.not_false, Bool.or_true, Bool.and_self, if_true]
    rfl
  have hstep := step_eq_some hnext
  refine MovesOn.of_step ?_ hnext rfl
  exact movesOn_of_refusal (hconsistent.step hstep) (hstep.matched hmatched)
    (hstep.registered hregistered) hreading (hwaits.set_ne htarget rfl rfl) hsending
    (getElem?_set_of_some hchannel _) rfl

/-- A connection at rest in which a call goes on is moved on by the network, the peer or the
owners. -/
theorem Idle.movesOn (h : running.Idle md5 obfuscationKey) (hconsistent : running.Consistent)
    (hgone : running.WriterGone) (hordered : running.connection.Ordered)
    (hmatched : running.connection.Matched) (hreading : running.readTask = .running)
    (hsession : running.connection.sessions[index]? = some session)
    (hcall : session.calls[callIndex]? = some call) (hgoing : call.phase.isOver = false) :
    running.MovesOn md5 obfuscationKey := by
  have hawaits := h.awaitsNetwork hconsistent hgone hordered
  have hwriter {other otherCall : Nat} {otherSession : Session} {found : Call}
      (hother : running.connection.sessions[other]? = some otherSession)
      (hfound : otherSession.calls[otherCall]? = some found)
      (hwaitsFor : running.AwaitsWriter found) : running.MovesOn md5 obfuscationKey := by
    obtain ⟨otherChannel, hotherChannel, -⟩ := hordered.registered.exists_channel hother
    exact movesOn_of_awaitsWriter hconsistent hreading hother hotherChannel hfound hwaitsFor
  rcases hawaits.calls index callIndex session call hsession hcall hgoing with
    hwaitsFor | ⟨waiting, hwaits, -⟩
  · exact hwriter hsession hcall hwaitsFor
  cases hsending : running.connection.sessionManager.sending with
  | none => exact movesOn_of_reply hconsistent hmatched hordered.registered hreading hwaits hsending
  | some held =>
      obtain ⟨packet, target⟩ := held
      by_cases htarget : target = index
      · subst htarget
        exact movesOn_of_delivery hconsistent hmatched hreading hwaits hsending
      obtain ⟨targetSession, targetChannel, htargetSession, htargetChannel, hfull, hcalls⟩ :=
        hawaits.reader packet target hsending
      by_cases hover : ∀ call ∈ targetSession.calls, call.phase.isOver = true
      · exact movesOn_of_drop hconsistent hmatched hordered.registered hreading hwaits htarget
          hsending htargetSession htargetChannel (Channel.send_eq_pending_iff.mp hfull).1 hover
      · push Not at hover
        obtain ⟨going, hmem, hnotOver⟩ := hover
        obtain ⟨goingIndex, hgoingCall⟩ := List.mem_iff_getElem?.mp hmem
        exact hwriter htargetSession hgoingCall ((hcalls going hmem).resolve_left hnotOver)

end MovesOn

/-- A state of a run in which the reader goes on. -/
structure Reading (running : RunningConnection) : Prop where
  consistent : running.Consistent
  gone : running.WriterGone
  ordered : running.connection.Ordered
  matched : running.connection.Matched
  reading : running.readTask = .running

section Runs

variable {md5 : List UInt8 → Digest} {obfuscationKey : Option (List UInt8)}
  {running next : RunningConnection} {action : Action} {actions : List Action}

theorem reading_of_run (hrun : Rust.run (step md5 obfuscationKey) new actions = some running)
    (hreading : running.readTask = .running) : running.Reading := by
  obtain ⟨hconsistent, hgone, hordered⟩ := orderly_of_run hrun
  have hmatched : running.connection.Matched :=
    invariant_of_run (P := fun running : RunningConnection => running.connection.Matched)
      Connection.matched_new (fun _ _ _ h hnext => (step_eq_some hnext).matched h) hrun
  exact ⟨hconsistent, hgone, hordered, hmatched, hreading⟩

theorem Reading.run (h : running.Reading)
    (hactions : ∀ action ∈ actions, action.isCooperative = true)
    (hrun : Rust.run (step md5 obfuscationKey) running actions = some next) : next.Reading where
  consistent := invariant_of_run h.consistent
    (fun _ _ _ hmid hnext => hmid.step (step_eq_some hnext)) hrun
  gone := invariant_of_run h.gone (fun _ _ _ hmid hnext => hmid.step (step_eq_some hnext)) hrun
  ordered := invariant_of_run (P := fun running : RunningConnection => running.connection.Ordered)
    h.ordered (fun _ _ _ hmid hnext => (step_eq_some hnext).ordered hmid) hrun
  matched := invariant_of_run (P := fun running : RunningConnection => running.connection.Matched)
    h.matched (fun _ _ _ hmid hnext => (step_eq_some hnext).matched hmid) hrun
  reading := (leadsTo_of_run hactions hrun).reader h.reading

theorem Action.isCooperative_of_isLocal (h : action.isLocal = true) :
    action.isCooperative = true := by
  cases action with
  | owner action =>
      cases action with
      | poll => exact h
      | _ => simp [isLocal] at h
  | _ => first | rfl | exact h

/-- A connection in which a call goes on comes to rest first, and is then moved on. -/
theorem Reading.movesOn (h : running.Reading) (hgoes : ¬ running.connection.Over) :
    running.MovesOn md5 obfuscationKey := by
  obtain ⟨later, idle, hlater, hidleRun, hidle⟩ := @exists_run_to_idle md5 obfuscationKey running
  have hcooperative : ∀ action ∈ later, action.isCooperative = true :=
    fun action hmem => Action.isCooperative_of_isLocal (hlater action hmem)
  have hleads := leadsTo_of_run hcooperative hidleRun
  by_cases hover : idle.connection.Over
  · refine ⟨later, idle, hcooperative, hidleRun, ?_⟩
    obtain ⟨index, callIndex, session, call, hsession, hcall, hgoing⟩ :=
      Connection.exists_going hgoes
    rw [hover.remaining_eq_zero]
    exact Connection.remaining_pos hsession hcall hgoing
  · obtain ⟨index, callIndex, session, call, hsession, hcall, hgoing⟩ :=
      Connection.exists_going hover
    have hreading := h.run hcooperative hidleRun
    obtain ⟨leg, next, hleg, hlegRun, hless⟩ := hidle.movesOn hreading.consistent hreading.gone
      hreading.ordered hreading.matched hreading.reading hsession hcall hgoing
    refine ⟨later ++ leg, next, ?_, run_append_eq_some_iff.mpr ⟨idle, hidleRun, hlegRun⟩,
      hless.trans_le hleads.remaining⟩
    intro action hmem
    exact (List.mem_append.mp hmem).elim (hcooperative action) (hleg action)

/-- From every state of a run in which the reader goes on, steps of the tasks, the calls, the
network and the peer, and owners who drop sessions of which no call goes on, bring every call to
its end: each returns, but for those that were given up before, and the reader goes on. -/
theorem every_call_can_end
    (hrun : Rust.run (step md5 obfuscationKey) new actions = some running)
    (hreading : running.readTask = .running) :
    ∃ later final, (∀ action ∈ later, action.isCooperative = true) ∧
      Rust.run (step md5 obfuscationKey) running later = some final ∧
      final.readTask = .running ∧
      ∀ index callIndex call, running.connection.callAt index callIndex = some call →
        ∃ call', final.connection.callAt index callIndex = some call' ∧
          ((∃ result, call'.phase = .returned result) ∨ call.phase = .abandoned) := by
  have hprogress (mid : RunningConnection) (hmid : mid.Reading) (hgoes : ¬ mid.connection.Over) :
      ∃ leg next, (∀ action ∈ leg, action.isCooperative = true) ∧
        Rust.run (step md5 obfuscationKey) mid leg = some next ∧ next.Reading ∧
          next.connection.remaining < mid.connection.remaining := by
    obtain ⟨leg, next, hleg, hlegRun, hless⟩ := hmid.movesOn hgoes
    exact ⟨leg, next, hleg, hlegRun, hmid.run hleg hlegRun, hless⟩
  obtain ⟨later, final, hlater, hfinal, hkept, hover⟩ :=
    exists_run_of_legs (fun running : RunningConnection => running.connection.remaining)
      hprogress (reading_of_run hrun hreading)
  refine ⟨later, final, hlater, hfinal, hkept.reading, fun index callIndex call hcall => ?_⟩
  obtain ⟨call', hcall', habandoned⟩ :=
    (leadsTo_of_run hlater hfinal).calls index callIndex call hcall
  refine ⟨call', hcall', ?_⟩
  obtain ⟨session, hsession, hcalls⟩ := Connection.callAt_eq_some_iff.mp hcall'
  have hended := hover session (List.mem_of_getElem? hsession) call' (List.mem_of_getElem? hcalls)
  cases hphase : call'.phase with
  | returned result => exact .inl ⟨result, rfl⟩
  | abandoned => exact .inr (habandoned hphase)
  | _ => simp [hphase, CallPhase.isOver] at hended

/-- The three calls of `sendingRun` can end. -/
theorem every_call_can_end_sendingRun :
    ∃ running, Rust.run (step noDigest (some [107])) new Wire.sendingRun = some running ∧
      running.connection.sessions.map (fun session => session.calls.map Call.phase) =
        [[.joiningWrite, .joiningWrite], [.joiningWrite]] ∧
      ∃ later final, (∀ action ∈ later, action.isCooperative = true) ∧
        Rust.run (step noDigest (some [107])) running later = some final ∧
        final.readTask = .running ∧
        ∀ index callIndex call, running.connection.callAt index callIndex = some call →
          ∃ call', final.connection.callAt index callIndex = some call' ∧
            ((∃ result, call'.phase = .returned result) ∨ call.phase = .abandoned) := by
  have hfacts : (Rust.run (step noDigest (some [107])) new Wire.sendingRun).map (fun running =>
      (running.readTask, running.connection.sessions.map fun session =>
        session.calls.map Call.phase)) =
      some (.running, [[.joiningWrite, .joiningWrite], [.joiningWrite]]) := by decide +kernel
  obtain ⟨running, hrun, hfields⟩ := Option.map_eq_some_iff.mp hfacts
  obtain ⟨hreading, hphases⟩ := Prod.mk.inj hfields
  exact ⟨running, hrun, hphases, every_call_can_end hrun hreading⟩

end Runs

end RunningConnection

end TacacsRs.Networking
