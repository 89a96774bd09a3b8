import TacacsRs.Networking.Inbound
import TacacsRs.Networking.WaitingCalls

/-!
# What a running connection does by itself

The tasks, the handler and the calls go on until there is nothing left for them
to do but to wait for the network or for the owners. No lock and no queue of the
connection holds them up for good: behind every call that waits there is one
that waits for a packet, or a writer whose bytes the network has not taken.
-/

namespace TacacsRs.Networking

open Rust Messages

/-- How many polls the call has before it at most. -/
def CallPhase.remaining : CallPhase → Nat
  | .checkingSender => 10
  | .joiningRead => 9
  | .checkingReceiver => 8
  | .checkingComplete => 7
  | .drawing => 6
  | .sending _ => 5
  | .joiningWrite => 4
  | .acquiring => 3
  | .receiving => 2
  | .completing _ => 1
  | .returned _ => 0
  | .abandoned => 0

namespace CallPhase

variable {phase : CallPhase}

theorem eq_of_stake_read (h : phase.stake = .waiting .read) : phase = .checkingReceiver := by
  cases phase <;> simp_all [stake]

theorem eq_of_stake_write (h : phase.stake = .waiting .write) : phase = .acquiring := by
  cases phase <;> simp_all [stake]

theorem eq_of_stake_writing (h : phase.stake = .writing) :
    phase = .receiving ∨ ∃ reply, phase = .completing reply := by
  cases phase <;> simp_all [stake]

end CallPhase

namespace Session

variable {session next : Session} {duplexChannel duplexChannel' : DuplexChannel} {index : Nat}
  {call : Call} {poll : Poll}

/-- Some poll of the call at `index` can be taken that does not give it up. -/
def CanPoll (session : Session) (duplexChannel : DuplexChannel) (index : Nat) : Prop :=
  ∃ poll, poll ≠ .abandon ∧ (session.poll duplexChannel index poll).isSome = true

/-- The points at which a call cannot be polled. -/
inductive Stuck (session : Session) (duplexChannel : DuplexChannel) (index : Nat) :
    CallPhase → Prop where
  | sending (packet : Packet) (hfull : duplexChannel.sender.send packet = .pending) :
      Stuck session duplexChannel index (.sending packet)
  | checkingReceiver (hcannot : ¬ session.receiverLock.CanRead index) :
      Stuck session duplexChannel index .checkingReceiver
  | acquiring (hcannot : ¬ session.receiverLock.CanWrite index) :
      Stuck session duplexChannel index .acquiring
  | receiving (hpending : duplexChannel.receiver.recv = .pending) :
      Stuck session duplexChannel index .receiving

/-- Every poll but the last one leaves the call fewer polls. -/
theorem Polled.remaining_lt
    (h : Polled session duplexChannel index call poll next duplexChannel')
    (hpoll : poll ≠ .abandon) :
    ∃ call', next.calls = session.calls.set index call' ∧
      call'.phase.remaining < call.phase.remaining := by
  cases h with
  | senderClosed hphase | senderOpen hphase | joinRead hphase | receiverClosed hphase
  | receiverOpen hphase | complete hphase | incomplete hphase | queue packet hphase
  | queueClosed packet hphase | joinWrite hphase | acquire hphase | closed hphase
  | reply response receiver reply hphase | malformed response receiver result hphase
  | succeed reply hphase => exact ⟨_, rfl, by simp [hphase, CallPhase.remaining]⟩
  | draw phase hphase hnext =>
      refine ⟨_, rfl, ?_⟩
      rcases hnext with ⟨packet, rfl, -⟩ | ⟨error, rfl⟩ | rfl
      · simp [hphase, CallPhase.remaining]
      · simp [hphase, CallPhase.remaining]
      · simp [hphase, CallPhase.remaining]
  | abandon => exact absurd rfl hpoll

/-- A call that goes on can be polled, or is stuck. -/
theorem stuck_of_not_canPoll (hcall : session.calls[index]? = some call)
    (hgoing : call.phase.isOver = false) (h : ¬ session.CanPoll duplexChannel index) :
    session.Stuck duplexChannel index call.phase := by
  have hnone (poll : Poll) (hpoll : poll ≠ .abandon) :
      ¬ (session.poll duplexChannel index poll).isSome = true :=
    fun hsome => h ⟨poll, hpoll, hsome⟩
  cases hphase : call.phase with
  | checkingSender =>
      exact absurd (by simp [Session.poll, hcall, hphase]) (hnone .checkSender (by simp))
  | joiningRead =>
      exact absurd (by simp [Session.poll, hcall, hphase]) (hnone .joinRead (by simp))
  | checkingComplete =>
      exact absurd (by simp [Session.poll, hcall, hphase]) (hnone .checkComplete (by simp))
  | drawing => exact absurd (by simp [Session.poll, hcall, hphase]) (hnone .draw (by simp))
  | joiningWrite =>
      exact absurd (by simp [Session.poll, hcall, hphase]) (hnone .joinWrite (by simp))
  | completing reply =>
      exact absurd (by simp [Session.poll, hcall, hphase]) (hnone .complete (by simp))
  | checkingReceiver =>
      refine .checkingReceiver fun hcan => hnone .checkReceiver (by simp) ?_
      simp only [Session.poll, hcall, hphase, pollCheckReceiver, if_pos hcan]
      split <;> rfl
  | acquiring =>
      refine .acquiring fun hcan => hnone .acquire (by simp) ?_
      simp [Session.poll, hcall, hphase, pollAcquire, hcan]
  | sending packet =>
      refine .sending packet ?_
      have hsend := hnone .send (by simp)
      simp only [Session.poll, hcall, hphase, pollSend] at hsend
      split at hsend
      · assumption
      · simp at hsend
      · simp at hsend
  | receiving =>
      refine .receiving ?_
      have hreceive := hnone .receive (by simp)
      simp only [Session.poll, hcall, hphase, pollReceive] at hreceive
      split at hreceive
      · assumption
      · simp at hreceive
      · split at hreceive <;> simp at hreceive
  | returned result => simp [hphase, CallPhase.isOver] at hgoing
  | abandoned => simp [hphase, CallPhase.isOver] at hgoing

/-- A call with the given stake is there. -/
theorem exists_call_of_stakes (h : session.stakes index ≠ .outside) :
    ∃ call, session.calls[index]? = some call ∧ session.stakes index = call.phase.stake := by
  cases hcall : session.calls[index]? with
  | none =>
      refine absurd ?_ h
      rw [stakes, List.getD_eq_getElem?_getD, List.getElem?_map, hcall]
      rfl
  | some call => exact ⟨call, rfl, getD_map_eq _ _ hcall⟩

/-- When no call at the lock can be polled, one that waits for the lock waits for one that waits for
a packet. -/
theorem Tracked.exists_receiving (h : session.Tracked)
    (hstuck : ∀ other, session.stakes other ≠ .outside → ¬ session.CanPoll duplexChannel other)
    {mode : LockMode}
    (hwaits : session.stakes index = .waiting mode) :
    ∃ (waiting : Nat) (call : Call), session.calls[waiting]? = some call ∧
      call.phase = .receiving ∧ duplexChannel.receiver.recv = .pending := by
  have hheld {other : Nat} {call : Call} (hcall : session.calls[other]? = some call)
      (hgoing : call.phase.isOver = false) (hstake : session.stakes other ≠ .outside) :
      session.Stuck duplexChannel other call.phase :=
    stuck_of_not_canPoll hcall hgoing (hstuck other hstake)
  rcases h.exists_entrant hwaits with ⟨writer, hwriting⟩ | ⟨first, ⟨hread, hcan⟩ | ⟨hwrite, hcan⟩⟩
  · obtain ⟨call, hcall, hstake⟩ := exists_call_of_stakes (by rw [hwriting]; simp)
    refine ⟨writer, call, hcall, ?_⟩
    rcases CallPhase.eq_of_stake_writing (hstake.symm.trans hwriting) with hphase | ⟨reply, hphase⟩
    · have hwait := hheld hcall (by rw [hphase]; rfl) (by simp [hwriting])
      rw [hphase] at hwait
      cases hwait with
      | receiving hpending => exact ⟨hphase, hpending⟩
    · have hwait := hheld hcall (by rw [hphase]; rfl) (by simp [hwriting])
      rw [hphase] at hwait
      cases hwait
  · obtain ⟨call, hcall, hstake⟩ := exists_call_of_stakes (by rw [hread]; simp)
    have hphase := CallPhase.eq_of_stake_read (hstake.symm.trans hread)
    have hwait := hheld hcall (by rw [hphase]; rfl) (by simp [hread])
    rw [hphase] at hwait
    cases hwait with
    | checkingReceiver hcannot => exact absurd hcan hcannot
  · obtain ⟨call, hcall, hstake⟩ := exists_call_of_stakes (by rw [hwrite]; simp)
    have hphase := CallPhase.eq_of_stake_write (hstake.symm.trans hwrite)
    have hwait := hheld hcall (by rw [hphase]; rfl) (by simp [hwrite])
    rw [hphase] at hwait
    cases hwait with
    | acquiring hcannot => exact absurd hcan hcannot

/-- How many polls the calls of the session have before them at most. -/
def remaining (session : Session) : Nat :=
  (session.calls.map fun call => call.phase.remaining).sum

theorem remaining_lt (hcall : session.calls[index]? = some call)
    (h : Polled session duplexChannel index call poll next duplexChannel')
    (hpoll : poll ≠ .abandon) : next.remaining < session.remaining := by
  obtain ⟨call', hcalls, hless⟩ := h.remaining_lt hpoll
  have hsum := sum_map_set (fun call : Call => call.phase.remaining) hcall call'
  rw [remaining, remaining, hcalls]
  omega

end Session

namespace Connection

/-- The reader has its packet looked up for a session that is there. -/
def Addressed (connection : Connection) : Prop :=
  ∀ packet target, connection.sessionManager.sending = some (packet, target) →
    target < connection.sessionManager.sessions.length

theorem Addressed.step {connection next : Connection} {action : Action}
    (h : connection.Addressed) (hregistered : connection.Registered)
    (hstep : Step connection action next) : next.Addressed := by
  intro packet target hsending
  have hlength := hstep.length_le
  cases hstep with
  | manage action manager event hpresent howner hstep =>
      cases hstep with
      | create | permit | refuse | cancel | disable | reject => exact h packet target hsending
      | register call draws sessionId hcall hidle => simp [hidle] at hsending
      | lookup _ index hidle hlookup =>
          obtain ⟨rfl, rfl⟩ := Prod.mk.inj (Option.some.inj hsending)
          have hid := (hregistered.registered _ _).mp hlookup
          simpa [SessionManager.ids] using (List.getElem?_eq_some_iff.mp hid).1
      | deliver | fail => simp at hsending
      | receive | drop => simp [SessionManager.Action.byOwner] at howner
  | start | poll | dropSession | takeOutgoing | closeOutgoing =>
      exact (h packet target hsending).trans_le hlength
  | dropConnection hpresent hidle => simp [hidle] at hsending

/-- The sessions are registered with their channels, and tended. -/
structure Ordered (connection : Connection) : Prop where
  registered : connection.Registered
  tended : connection.Tended
  addressed : connection.Addressed

theorem ordered_new : Ordered .new where
  registered := registered_new
  tended := tended_new
  addressed := by simp [Addressed, new, SessionManager.new]

theorem Ordered.step {connection next : Connection} {action : Action} (h : connection.Ordered)
    (hstep : Step connection action next) : next.Ordered :=
  ⟨h.registered.step hstep, h.tended.step hstep, h.addressed.step h.registered hstep⟩

theorem Ordered.complete {connection : Connection} (h : connection.Ordered) {index : Nat}
    {session : Session} (hsession : connection.sessions[index]? = some session) :
    Ordered { connection with sessions := connection.sessions.set index session.complete } :=
  ⟨h.registered.complete hsession, h.tended.complete hsession, h.addressed⟩

theorem Ordered.queue {connection : Connection} (h : connection.Ordered) {request : Packet}
    (hroom : connection.sessionManager.outgoing.HasRoom) :
    Ordered { connection with sessionManager := { connection.sessionManager with
      outgoing := connection.sessionManager.outgoing.push request hroom } } :=
  ⟨h.registered.queue hroom, h.tended.queue hroom, h.addressed⟩

end Connection

namespace RunningConnection

/-- What needs neither the network nor an owner, who may start calls and give them up. -/
def Action.isLocal : Action → Bool
  | .owner (.poll _ _ poll) => poll ≠ .abandon
  | .finishSend => true
  | .takeOutgoing => true
  | .join => true
  | .disableNewSessions => true
  | .dropConnection => true
  | _ => false

/-- How many local steps there are at most. -/
def remaining (running : RunningConnection) : Nat :=
  (running.connection.sessions.map Session.remaining).sum +
    running.connection.sessionManager.sending.toList.length +
    (match running.writeTask with
      | .receiving => 1
      | _ => 0) +
    (match running.handler with
      | .joining => 2
      | .disabling _ _ => 1
      | _ => 0) +
    (!running.connection.dropped).toNat

section Remaining

variable {md5 : List UInt8 → Digest} {obfuscationKey : Option (List UInt8)}
  {running next : RunningConnection} {action : Action}

theorem Step.remaining_lt (h : Step md5 obfuscationKey running action next)
    (hlocal : action.isLocal = true) : next.remaining < running.remaining := by
  cases h with
  | run | completeSession | queueRequest | dropArc | forward | skip | written | writeFailed =>
      simp [Action.isLocal] at hlocal
  | endRead _ error haction =>
      rcases haction with ⟨rest, rfl⟩ | rfl
      · simp [Action.isLocal] at hlocal
      · simp [Action.isLocal] at hlocal
  | owner action connection howner harc howned =>
      cases howned with
      | poll index callIndex poll session polled sessionChannel duplexChannel hsession hchannel
          hpoll =>
          obtain ⟨call, hcall, hpolled⟩ := Session.poll_eq_some hpoll
          have hless := Session.remaining_lt hcall hpolled (by simpa [Action.isLocal] using hlocal)
          have hsum := sum_map_set Session.remaining hsession polled
          simp only [remaining]
          omega
      | manage | start | dropSession | takeOutgoing | closeOutgoing | dropConnection =>
          simp [Action.isLocal] at hlocal
  | finishSend connection hrunning hfinish =>
      cases hfinish with
      | manage _ manager event hpresent howner hfinish =>
          cases hfinish with
          | deliver packet index session hsending | fail packet index session hsending =>
              simp [remaining, hsending, SessionManager.Event.registeredIds]
  | takeOutgoing packet written outgoing connection hreceiving hrecv hwritten htake =>
      cases htake
      simp [remaining, hreceiving]
  | takePanicked packet outgoing connection hreceiving hrecv hpanicked htake =>
      cases htake
      simp only [remaining, hreceiving, endWrite, Connection.closeOutgoing]
      omega
  | outgoingClosed hreceiving =>
      simp only [remaining, hreceiving, endWrite, Connection.closeOutgoing]
      omega
  | joinPanicked hjoining => simp [remaining, hjoining]
  | join writeResult readResult hjoining => simp [remaining, hjoining]
  | disableNewSessions writeResult readResult connection hdisabling hdisable =>
      cases hdisable with
      | manage _ manager event hpresent howner hdisable =>
          cases hdisable
          simp [remaining, hdisabling, SessionManager.Event.registeredIds]
  | dropConnection connection howned hread hwrite hhandler hdrop =>
      cases hdrop with
      | dropConnection hpresent hidle =>
          have hpresent : running.connection.dropped = false := hpresent
          simp [remaining, hpresent, Connection.closeOutgoing]

end Remaining

/-- No step is left but those of the network and the owners. -/
def Idle (md5 : List UInt8 → Digest) (obfuscationKey : Option (List UInt8))
    (running : RunningConnection) : Prop :=
  ∀ action, action.isLocal = true → running.step md5 obfuscationKey action = none

/-- The call has no room for its packet as long as the network does not take the bytes of another
one, or `run` has not been called. -/
def AwaitsWriter (running : RunningConnection) (call : Call) : Prop :=
  ∃ packet, call.phase = .sending packet ∧
    running.connection.sessionManager.outgoing.send packet = .pending ∧
    (running.handler = .notCalled ∨ ∃ bytes, running.writeTask = .writing bytes)

/-- The call waits for a packet, or for the lock behind a call that does. -/
def AwaitsPacket (running : RunningConnection) (index callIndex : Nat) (call : Call) : Prop :=
  ∃ waiting, running.connection.Waits index waiting ∧
    (waiting = callIndex ∨ call.phase = .checkingReceiver ∨ call.phase = .acquiring)

/-- What is held up is held up by the network or by the owners: the calls by what is not written
or has not come yet, the reader by a session of which no call takes packets. -/
structure AwaitsNetwork (running : RunningConnection) : Prop where
  calls : ∀ (index callIndex : Nat) (session : Session) (call : Call),
    running.connection.sessions[index]? = some session →
      session.calls[callIndex]? = some call → call.phase.isOver = false →
        running.AwaitsWriter call ∨ running.AwaitsPacket index callIndex call
  reader : ∀ packet target, running.connection.sessionManager.sending = some (packet, target) →
    ∃ (session : Session) (sessionChannel : SessionChannel),
      running.connection.sessions[target]? = some session ∧
        running.connection.sessionManager.sessions[target]? = some sessionChannel ∧
        sessionChannel.channel.send packet = .pending ∧
        ∀ call ∈ session.calls, call.phase.isOver = true ∨ running.AwaitsWriter call

section Idle

variable {md5 : List UInt8 → Digest} {obfuscationKey : Option (List UInt8)}
  {running next : RunningConnection} {action : Action} {actions : List Action} {index : Nat}

/-- The receiver of the outgoing queue is gone once the write task is over. -/
def WriterGone (running : RunningConnection) : Prop :=
  ∀ result, running.writeTask = .ended result →
    running.connection.sessionManager.outgoing.receiverDropped = true

theorem WriterGone.step (h : running.WriterGone)
    (hstep : Step md5 obfuscationKey running action next) : next.WriterGone := by
  intro result hended
  have hkept {connection : Connection} {action : Connection.Action}
      (hnext : Connection.Step running.connection action connection)
      (haction : action ≠ .closeOutgoing) (hbefore : running.writeTask = .ended result) :
      connection.sessionManager.outgoing.receiverDropped = true := by
    rw [hnext.outgoing_receiverDropped_eq haction]
    exact h result hbefore
  cases hstep with
  | run | takeOutgoing | written => simp at hended
  | owner action connection howner harc howned =>
      exact hkept howned (ne_of_byOwner howner rfl) hended
  | forward frame packet connection hrunning hidle hround hforward =>
      exact hkept hforward (by simp) hended
  | finishSend connection hrunning hfinish => exact hkept hfinish (by simp) hended
  | disableNewSessions writeResult readResult connection hdisabling hdisable =>
      exact hkept hdisable (by simp) hended
  | completeSession | queueRequest | dropArc | skip | endRead | joinPanicked | join =>
      exact h result hended
  | takePanicked | outgoingClosed | writeFailed => rfl
  | dropConnection connection howned hread hwrite hhandler hdrop =>
      rw [hdrop.outgoing_receiverDropped_eq (by simp)]
      rfl

theorem Idle.not_canPoll (h : running.Idle md5 obfuscationKey) {session : Session}
    {sessionChannel : SessionChannel}
    (hsession : running.connection.sessions[index]? = some session)
    (hchannel : running.connection.sessionManager.sessions[index]? = some sessionChannel)
    (callIndex : Nat) :
    ¬ session.CanPoll ⟨running.connection.sessionManager.outgoing, sessionChannel.channel⟩
      callIndex := by
  rintro ⟨poll, hpoll, hsome⟩
  obtain ⟨polled, hpolled⟩ := Option.isSome_iff_exists.mp hsome
  have hnone := h (.owner (.poll index callIndex poll)) (by simpa [Action.isLocal] using hpoll)
  simp [RunningConnection.step, ownerStep, Connection.Action.byOwner,
    Connection.Action.borrowsArc, Connection.step, Connection.pollCall, hsession, hchannel,
    hpolled] at hnone

/-- A full outgoing queue is being written, unless nobody has begun to. -/
theorem Idle.writing (h : running.Idle md5 obfuscationKey) (hconsistent : running.Consistent)
    (hgone : running.WriterGone) {packet : Packet}
    (hfull : running.connection.sessionManager.outgoing.send packet = .pending) :
    running.handler = .notCalled ∨ ∃ bytes, running.writeTask = .writing bytes := by
  obtain ⟨hopen, hroom⟩ := Channel.send_eq_pending_iff.mp hfull
  cases hwrite : running.writeTask with
  | notSpawned =>
      left
      by_contra hcalled
      exact (hconsistent.spawned hcalled).2 hwrite
  | receiving =>
      have hnone := h .takeOutgoing rfl
      have hqueue : running.connection.sessionManager.outgoing.queue ≠ [] :=
        fun hempty => hroom (Channel.hasRoom_of_queue_eq_nil hempty (by decide))
      have hsome : (running.step md5 obfuscationKey .takeOutgoing).isSome = true :=
        hconsistent.takeOutgoing_isSome hwrite hqueue
      simp [hnone] at hsome
  | writing bytes => exact .inr ⟨bytes, rfl⟩
  | ended result => simp [hgone result hwrite] at hopen

theorem Idle.awaits (h : running.Idle md5 obfuscationKey) (hconsistent : running.Consistent)
    (hgone : running.WriterGone) (hordered : running.connection.Ordered) {session : Session}
    {callIndex : Nat} {call : Call}
    (hsession : running.connection.sessions[index]? = some session)
    (hcall : session.calls[callIndex]? = some call) (hgoing : call.phase.isOver = false) :
    running.AwaitsWriter call ∨ running.AwaitsPacket index callIndex call := by
  obtain ⟨sessionChannel, hchannel, -⟩ := hordered.registered.exists_channel hsession
  have hnot := h.not_canPoll hsession hchannel
  have htracked := hordered.tended.tracked session (List.mem_of_getElem? hsession)
  have hlock {mode : LockMode} (hstake : call.phase.stake = .waiting mode) :
      ∃ waiting, running.connection.Waits index waiting := by
    obtain ⟨waiting, holder, hholder, hphase, hpending⟩ :=
      htracked.exists_receiving (fun other _ => hnot other) ((getD_map_eq _ _ hcall).trans hstake)
    exact ⟨waiting, session, holder, sessionChannel, hsession, hholder, hphase, hchannel, hpending⟩
  have hstuck := Session.stuck_of_not_canPoll hcall hgoing (hnot callIndex)
  generalize hphase : call.phase = phase at hstuck
  cases hstuck with
  | sending packet hfull =>
      exact .inl ⟨packet, hphase, hfull, h.writing hconsistent hgone hfull⟩
  | checkingReceiver =>
      have hstake : call.phase.stake = .waiting .read := by rw [hphase]; rfl
      obtain ⟨waiting, hwaits⟩ := hlock hstake
      exact .inr ⟨waiting, hwaits, .inr (.inl hphase)⟩
  | acquiring =>
      have hstake : call.phase.stake = .waiting .write := by rw [hphase]; rfl
      obtain ⟨waiting, hwaits⟩ := hlock hstake
      exact .inr ⟨waiting, hwaits, .inr (.inr hphase)⟩
  | receiving hpending =>
      exact .inr ⟨callIndex, ⟨session, call, sessionChannel, hsession, hcall, hphase, hchannel,
        hpending⟩, .inl rfl⟩

/-- The reader waits for a session that takes nothing out of its full channel. -/
theorem Idle.awaitsNetwork (h : running.Idle md5 obfuscationKey)
    (hconsistent : running.Consistent) (hgone : running.WriterGone)
    (hordered : running.connection.Ordered) : running.AwaitsNetwork where
  calls := fun index callIndex session call hsession hcall hgoing =>
    h.awaits hconsistent hgone hordered hsession hcall hgoing
  reader := by
    intro packet target hsending
    have htarget := hordered.addressed packet target hsending
    have hchannel := List.getElem?_eq_getElem htarget
    generalize running.connection.sessionManager.sessions[target] = sessionChannel at hchannel
    have hindex : target < running.connection.sessions.length := by
      rw [Connection.length_eq_of_ids hordered.registered.ids]
      exact htarget
    have hsession := List.getElem?_eq_getElem hindex
    generalize running.connection.sessions[target] = session at hsession
    have hrunning : running.readTask = .running := by
      by_contra hover
      simp [hconsistent.sending hover] at hsending
    have hfull : sessionChannel.channel.send packet = .pending := by
      by_contra hnot
      rw [Channel.send_eq_pending_iff, not_and_or, Bool.not_eq_false, not_not] at hnot
      have hsome : (running.step md5 obfuscationKey .finishSend).isSome = true :=
        hconsistent.finishSend_isSome hrunning
          ⟨packet, target, hsending, sessionChannel, hchannel, hnot⟩
      simp [h .finishSend rfl] at hsome
    refine ⟨session, sessionChannel, hsession, hchannel, hfull, fun call hmem => ?_⟩
    obtain ⟨callIndex, hcall⟩ := List.mem_iff_getElem?.mp hmem
    cases hgoing : call.phase.isOver with
    | true => exact .inl rfl
    | false =>
        rcases h.awaits hconsistent hgone hordered hsession hcall hgoing with
          hwriter | ⟨waiting, ⟨_, _, other, -, -, -, hother, hpending⟩, -⟩
        · exact .inr hwriter
        · obtain rfl := Option.some.inj (hchannel.symm.trans hother)
          obtain ⟨hempty, -⟩ := Channel.recv_eq_pending_iff.mp hpending
          obtain ⟨-, hroom⟩ := Channel.send_eq_pending_iff.mp hfull
          exact absurd (Channel.hasRoom_of_queue_eq_nil hempty (by decide)) hroom

theorem Step.ordered (h : Step md5 obfuscationKey running action next)
    (hordered : running.connection.Ordered) : next.connection.Ordered := by
  refine h.invariant ?_ ?_ ?_ hordered
  · exact fun connection action next h hstep => h.step hstep
  · exact fun connection index session h hsession => h.complete hsession
  · exact fun connection request h _ hroom => h.queue hroom

theorem orderly_of_run (hrun : Rust.run (RunningConnection.step md5 obfuscationKey) new actions =
    some running) :
    running.Consistent ∧ running.WriterGone ∧ running.connection.Ordered := by
  refine ⟨consistent_of_run hrun, ?_, ?_⟩
  · apply invariant_of_run _ _ hrun
    · intro result hended
      simp [new] at hended
    · exact fun mid action next hmid hnext => hmid.step (step_eq_some hnext)
  · exact invariant_of_run (P := fun running : RunningConnection => running.connection.Ordered)
      Connection.ordered_new (fun _ _ _ h hnext => (step_eq_some hnext).ordered h) hrun

/-- Some order of the local steps comes to rest. -/
theorem exists_run_to_idle (running : RunningConnection) :
    ∃ later final, (∀ action ∈ later, action.isLocal = true) ∧
      Rust.run (step md5 obfuscationKey) running later = some final ∧
        final.Idle md5 obfuscationKey := by
  have hprogress (mid : RunningConnection) (_ : True) (hgoes : ¬ mid.Idle md5 obfuscationKey) :
      ∃ action next, action.isLocal = true ∧ mid.step md5 obfuscationKey action = some next ∧
        True ∧ next.remaining < mid.remaining := by
    simp only [Idle, not_forall] at hgoes
    obtain ⟨action, hlocal, hsome⟩ := hgoes
    obtain ⟨next, hnext⟩ := Option.ne_none_iff_exists'.mp hsome
    exact ⟨action, next, hlocal, hnext, trivial, (step_eq_some hnext).remaining_lt hlocal⟩
  obtain ⟨later, final, hlater, hfinal, -, hidle⟩ :=
    exists_run_to_rest remaining hprogress (s := running) trivial
  exact ⟨later, final, hlater, hfinal, hidle⟩

/-- In every run, what a connection does without the network and its owners ends after a number of
steps that is known beforehand, whatever their order, and then everything that goes on waits for
the network or for the owners. Some order leads there. -/
theorem comes_to_wait_for_the_network
    (hrun : Rust.run (step md5 obfuscationKey) new actions = some running) :
    (∀ later final, (∀ action ∈ later, action.isLocal = true) →
      Rust.run (step md5 obfuscationKey) running later = some final →
        later.length ≤ running.remaining ∧
          (final.Idle md5 obfuscationKey → final.AwaitsNetwork)) ∧
    ∃ later final, (∀ action ∈ later, action.isLocal = true) ∧
      Rust.run (step md5 obfuscationKey) running later = some final ∧
        final.Idle md5 obfuscationKey := by
  have hlower (mid : RunningConnection) (action : Action) (next : RunningConnection)
      (hlocal : action.isLocal = true) (hnext : mid.step md5 obfuscationKey action = some next) :
      next.remaining < mid.remaining := (step_eq_some hnext).remaining_lt hlocal
  constructor
  · intro later final hlater hfinal
    have hlength := length_le_of_rank remaining hlower hlater hfinal
    have hall := run_append_eq_some_iff.mpr ⟨running, hrun, hfinal⟩
    obtain ⟨hconsistent, hgone, hordered⟩ := orderly_of_run hall
    exact ⟨by omega, fun hidle => hidle.awaitsNetwork hconsistent hgone hordered⟩
  · exact exists_run_to_idle running

/-- The calls of `sendingRun` wait for packets, one behind another, and the network for the writer's
bytes. -/
theorem comes_to_wait_for_the_network_sendingRun :
    ∃ running, Rust.run (step noDigest (some [107])) new Wire.sendingRun = some running ∧
      running.remaining = 15 ∧
      (∀ later final, (∀ action ∈ later, action.isLocal = true) →
        Rust.run (step noDigest (some [107])) running later = some final →
          later.length ≤ running.remaining ∧
            (final.Idle noDigest (some [107]) → final.AwaitsNetwork)) ∧
      ∃ later final, (∀ action ∈ later, action.isLocal = true) ∧
        Rust.run (step noDigest (some [107])) running later = some final ∧
          final.Idle noDigest (some [107]) := by
  have hfacts : (Rust.run (step noDigest (some [107])) new Wire.sendingRun).map remaining =
      some 15 := by decide +kernel
  obtain ⟨running, hrun, hremaining⟩ := Option.map_eq_some_iff.mp hfacts
  exact ⟨running, hrun, hremaining, comes_to_wait_for_the_network hrun⟩

end Idle

end RunningConnection

end TacacsRs.Networking
