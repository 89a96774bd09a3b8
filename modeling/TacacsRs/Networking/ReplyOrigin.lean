import TacacsRs.Networking.Inbound
import TacacsRs.Networking.Completion

/-!
# Where replies come from

A call that has its turn at the receiver takes the packet at the front of the
session's channel and returns what it decodes to. No packet is taken twice and
none is passed over, so the calls that have taken one share the first packets of
the session among them. Which call takes which packet is left to the order of
their turns.
-/

namespace TacacsRs.Networking

open Rust Messages

/-- A call that has taken a packet returns what the packet decodes to, unless it is abandoned with
a reply in hand; without a packet no call returns a reply. -/
def Call.Settled (call : Call) : Prop :=
  match call.response with
  | none => ∀ reply, call.phase ≠ .completing reply ∧ call.phase ≠ .returned (.ok reply)
  | some packet =>
      call.phase = .returned (AccountingReply.fromBytes packet.body) ∨
        ∃ reply, AccountingReply.fromBytes packet.body = .ok reply ∧
          (call.phase = .completing reply ∨ call.phase = .abandoned)

namespace Call

variable {call : Call}

theorem settled_of_none (hresponse : call.response = none)
    (h : ∀ reply, call.phase ≠ .completing reply ∧ call.phase ≠ .returned (.ok reply)) :
    call.Settled := by
  rw [Settled, hresponse]
  exact h

/-- A call that is not over and has not its reply in hand has taken no packet. -/
theorem Settled.response_eq_none (h : call.Settled)
    (hcompleting : ∀ reply, call.phase ≠ .completing reply)
    (hreturned : ∀ result, call.phase ≠ .returned result)
    (habandoned : call.phase ≠ .abandoned) : call.response = none := by
  cases hresponse : call.response with
  | none => rfl
  | some packet =>
      simp only [Settled, hresponse] at h
      rcases h with hphase | ⟨reply, -, hphase | hphase⟩
      · exact absurd hphase (hreturned _)
      · exact absurd hphase (hcompleting reply)
      · exact absurd hphase habandoned

/-- A call with a reply in hand has it from the packet that it has taken. -/
theorem Settled.of_completing (h : call.Settled) {reply : AccountingReply}
    (hphase : call.phase = .completing reply) :
    ∃ packet, call.response = some packet ∧ AccountingReply.fromBytes packet.body = .ok reply := by
  cases hresponse : call.response with
  | none =>
      simp only [Settled, hresponse] at h
      exact absurd hphase (h reply).1
  | some packet =>
      refine ⟨packet, rfl, ?_⟩
      simp only [Settled, hresponse, hphase] at h
      simpa using h

theorem Settled.of_returned (h : call.Settled) {reply : AccountingReply}
    (hphase : call.phase = .returned (.ok reply)) :
    ∃ packet, call.response = some packet ∧ AccountingReply.fromBytes packet.body = .ok reply := by
  cases hresponse : call.response with
  | none =>
      simp only [Settled, hresponse] at h
      exact absurd hphase (h reply).2
  | some packet =>
      refine ⟨packet, rfl, ?_⟩
      simp only [Settled, hresponse, hphase] at h
      simpa [eq_comm] using h

/-- A call that has taken a packet can return only what the packet decodes to. -/
theorem Settled.result_eq (h : call.Settled) {packet : Packet}
    (hresponse : call.response = some packet) {result : Outcome AccountingReply}
    (hphase : call.phase = .returned result) : result = AccountingReply.fromBytes packet.body := by
  simp only [Settled, hresponse, hphase] at h
  simpa using h

end Call

namespace Session

/-- The packet that the call at `index` has taken. -/
def responseOf (session : Session) (index : Nat) : Option Packet :=
  (session.calls.map Call.response).getD index none

section Poll

variable {session next : Session} {duplexChannel duplexChannel' : DuplexChannel} {index : Nat}
  {call call' : Call} {poll : Poll}

theorem responseOf_eq (hcall : session.calls[index]? = some call) :
    session.responseOf index = call.response := getD_map_eq _ _ hcall

theorem exists_of_responseOf {packet : Packet} (h : session.responseOf index = some packet) :
    ∃ call, session.calls[index]? = some call ∧ call.response = some packet := by
  rw [responseOf, List.getD_eq_getElem?_getD, List.getElem?_map] at h
  cases hcall : session.calls[index]? with
  | none => simp [hcall] at h
  | some call => exact ⟨call, rfl, by simpa [hcall] using h⟩

theorem responseOf_setCall (hcall : session.calls[index]? = some call)
    (hnext : next.calls = session.calls.set index call') :
    next.responseOf = Function.update session.responseOf index call'.response := by
  unfold responseOf
  rw [hnext]
  exact getD_map_set _ _ hcall call'

theorem responseOf_sendAccountingRequest (session : Session) (request : AccountingRequest) :
    (session.sendAccountingRequest request).responseOf = session.responseOf :=
  getD_map_append _ rfl

/-- What a poll does with the packets of the session. -/
inductive Takes (duplexChannel duplexChannel' : DuplexChannel) (call call' : Call) : Prop where
  | none (hresponse : call'.response = call.response)
      (hreceived : duplexChannel'.receiver.received = duplexChannel.receiver.received)
  | packet (packet : Packet) (hphase : call.phase = .receiving)
      (hresponse : call'.response = some packet)
      (hreceived :
        duplexChannel'.receiver.received = duplexChannel.receiver.received ++ [packet])

theorem Polled.takes (h : Polled session duplexChannel index call poll next duplexChannel')
    (hsettled : call.Settled) :
    ∃ call', next.calls = session.calls.set index call' ∧ call'.Settled ∧
      Takes duplexChannel duplexChannel' call call' := by
  have hkept {call' : Call} (hcalls : next.calls = session.calls.set index call')
      (hnone : call.response = Option.none) (hresponse : call'.response = call.response)
      (hphase : ∀ reply, call'.phase ≠ .completing reply ∧ call'.phase ≠ .returned (.ok reply))
      (hreceiver : duplexChannel'.receiver = duplexChannel.receiver) :
      ∃ call', next.calls = session.calls.set index call' ∧ call'.Settled ∧
        Takes duplexChannel duplexChannel' call call' :=
    ⟨call', hcalls, Call.settled_of_none (hresponse.trans hnone) hphase,
      .none hresponse (congrArg Channel.received hreceiver)⟩
  cases h with
  | senderClosed hphase | senderOpen hphase | joinRead hphase | receiverClosed hphase
  | receiverOpen hphase | complete hphase | incomplete hphase | queue packet hphase
  | queueClosed packet hphase | joinWrite hphase | acquire hphase | closed hphase =>
      have hnone : call.response = Option.none :=
        hsettled.response_eq_none (by simp [hphase]) (by simp [hphase]) (by simp [hphase])
      exact hkept rfl hnone rfl (by simp) rfl
  | draw phase hphase hnext =>
      have hnone : call.response = Option.none :=
        hsettled.response_eq_none (by simp [hphase]) (by simp [hphase]) (by simp [hphase])
      refine hkept rfl hnone rfl (fun reply => ?_) rfl
      rcases hnext with ⟨packet, rfl, -⟩ | ⟨error, rfl⟩ | rfl
      · simp
      · simp
      · simp
  | reply response receiver reply hphase hrecv hreply =>
      obtain ⟨-, hreceived⟩ := Channel.received_of_recv hrecv
      exact ⟨_, rfl, .inr ⟨reply, hreply, .inl rfl⟩, .packet response hphase rfl hreceived⟩
  | malformed response receiver result hphase hrecv hmalformed hresult =>
      obtain ⟨-, hreceived⟩ := Channel.received_of_recv hrecv
      subst hmalformed
      exact ⟨_, rfl, .inl rfl, .packet response hphase rfl hreceived⟩
  | succeed reply hphase =>
      obtain ⟨packet, hresponse, hreply⟩ := hsettled.of_completing hphase
      refine ⟨_, rfl, ?_, .none rfl rfl⟩
      simp [Call.Settled, hresponse, hreply]
  | abandon hreturned habandoned =>
      refine ⟨_, rfl, ?_, .none rfl rfl⟩
      cases hresponse : call.response with
      | none => exact Call.settled_of_none rfl (by simp)
      | some packet =>
          simp only [Call.Settled, hresponse] at hsettled
          rcases hsettled with hphase | ⟨reply, hreply, -⟩
          · exact absurd hphase (hreturned _)
          · exact .inr ⟨reply, hreply, .inr rfl⟩

end Poll

end Session

namespace LiveSession

/-- The packets taken from the session's channel, and the calls that took them. -/
structure Answered (takers : List Nat) (live : LiveSession) : Prop where
  settled : ∀ call ∈ live.session.calls, call.Settled
  taken : Attributed (fun index packet => live.session.responseOf index = some packet) takers
    live.duplexChannel.receiver.received
  takers : ∀ index, live.session.responseOf index ≠ none → index ∈ takers

theorem answered_new (sessionId : UInt32) : Answered [] (.new sessionId) where
  settled := by simp [new, Session.new]
  taken := attributed_nil
  takers := by simp [new, Session.new, Session.responseOf]

section Step

variable {live next : LiveSession} {takers : List Nat}

/-- Only polls take packets from the session's channel, and only they and new calls change the
calls. -/
theorem step_cases {action : Action} (hnext : live.step action = some next) :
    (∃ request, action = .sendAccountingRequest request ∧
      next = { live with session := live.session.sendAccountingRequest request }) ∨
    (∃ index call poll, action = .poll index poll ∧ live.session.calls[index]? = some call ∧
      Session.Polled live.session live.duplexChannel index call poll next.session
        next.duplexChannel) ∨
    ((∀ index poll, action ≠ .poll index poll) ∧ next.session = live.session ∧
      next.duplexChannel.receiver.received = live.duplexChannel.receiver.received) := by
  cases action with
  | sendAccountingRequest request =>
      exact .inl ⟨request, rfl, (Option.some.inj hnext).symm⟩
  | poll index poll =>
      obtain ⟨⟨session, duplexChannel⟩, hpoll, rfl⟩ := Option.map_eq_some_iff.mp hnext
      obtain ⟨call, hcall, hpolled⟩ := Session.poll_eq_some hpoll
      exact .inr (.inl ⟨index, call, poll, rfl, hcall, hpolled⟩)
  | deliver packet =>
      cases step_eq_some hnext with
      | deliver _ hroom => exact .inr (.inr ⟨by simp, rfl, Channel.received_push hroom⟩)
      | environment _ _ _ _ haction => simp at haction
  | disconnect | closeOutgoing =>
      obtain rfl := Option.some.inj hnext
      exact .inr (.inr ⟨by simp, rfl, rfl⟩)
  | queueOther packet =>
      obtain ⟨sender, -, rfl⟩ := queueOther_eq_some hnext
      exact .inr (.inr ⟨by simp, rfl, rfl⟩)
  | takeOutgoing =>
      obtain ⟨packet, sender, -, rfl⟩ := takeOutgoing_eq_some hnext
      exact .inr (.inr ⟨by simp, rfl, rfl⟩)

theorem Answered.polled (h : Answered takers live) {index : Nat} {call : Call} {poll : Poll}
    {session : Session} {duplexChannel : DuplexChannel}
    (hcall : live.session.calls[index]? = some call)
    (hpolled : Session.Polled live.session live.duplexChannel index call poll session
      duplexChannel) : Answered takers ⟨session, duplexChannel⟩ ∨
        call.phase = .receiving ∧ Answered (takers ++ [index]) ⟨session, duplexChannel⟩ := by
  have hbefore := h.settled call (List.mem_of_getElem? hcall)
  obtain ⟨call', hcalls, hafter, htakes⟩ := hpolled.takes hbefore
  have hsettled : ∀ call ∈ session.calls, call.Settled := by
    intro other hother
    rw [hcalls] at hother
    rcases List.mem_or_eq_of_mem_set hother with hold | rfl
    · exact h.settled other hold
    · exact hafter
  have hresponses := Session.responseOf_setCall hcall hcalls
  cases htakes with
  | none hresponse hreceived =>
      have hsame : session.responseOf = live.session.responseOf := by
        rw [hresponses, hresponse, ← Session.responseOf_eq hcall, Function.update_eq_self]
      refine .inl ⟨hsettled, ?_, ?_⟩
      · rw [hsame, hreceived]
        exact h.taken
      · rw [hsame]
        exact h.takers
  | packet packet hphase hresponse hreceived =>
      have hnone : live.session.responseOf index = none := by
        rw [Session.responseOf_eq hcall]
        exact hbefore.response_eq_none (by simp [hphase]) (by simp [hphase]) (by simp [hphase])
      have hfresh : index ∉ takers := by
        intro hmem
        obtain ⟨_, other, -, -, hother⟩ := h.taken.exists_item hmem
        simp [hnone] at hother
      rw [hresponse] at hresponses
      refine .inr ⟨hphase, hsettled, ?_, ?_⟩
      · rw [hreceived]
        refine (h.taken.imp fun other item hitem => ?_).add hfresh ?_
        · rw [hresponses, Function.update_of_ne]
          · exact hitem
          · rintro rfl
            simp [hnone] at hitem
        · rw [hresponses, Function.update_self]
      · intro other hother
        rw [List.mem_append, List.mem_singleton]
        by_cases heq : other = index
        · exact .inr heq
        · rw [hresponses, Function.update_of_ne heq] at hother
          exact .inl (h.takers other hother)

theorem Answered.start (h : Answered takers live) (request : AccountingRequest) :
    Answered takers { live with session := live.session.sendAccountingRequest request } where
  settled := by
    intro call hcall
    rcases List.mem_append.mp hcall with hold | hnew
    · exact h.settled call hold
    · obtain rfl := List.mem_singleton.mp hnew
      exact Call.settled_of_none rfl (by simp)
  taken := by
    rw [Session.responseOf_sendAccountingRequest]
    exact h.taken
  takers := by
    rw [Session.responseOf_sendAccountingRequest]
    exact h.takers

/-- A step that leaves the calls alone, and the packets that they took. -/
theorem Answered.quiet (h : Answered takers live)
    (hcalls : next.session.calls = live.session.calls)
    (hreceived :
      next.duplexChannel.receiver.received = live.duplexChannel.receiver.received) :
    Answered takers next where
  settled := hcalls ▸ h.settled
  taken := by
    unfold Session.responseOf
    rw [hcalls, hreceived]
    exact h.taken
  takers := by
    unfold Session.responseOf
    rw [hcalls]
    exact h.takers

theorem Answered.ownerStep (h : Answered takers live) {action : OwnerAction}
    (hnext : live.ownerStep action = some next) : ∃ takers', Answered takers' next := by
  cases action with
  | complete =>
      obtain rfl := Option.some.inj hnext
      exact ⟨takers, h.quiet rfl rfl⟩
  | session action =>
      rcases step_cases hnext with ⟨request, -, rfl⟩ | ⟨index, call, poll, -, hcall, hpolled⟩ |
        ⟨-, hsession, hreceived⟩
      · exact ⟨takers, h.start request⟩
      · rcases h.polled hcall hpolled with hsame | ⟨-, hmore⟩
        · exact ⟨takers, hsame⟩
        · exact ⟨takers ++ [index], hmore⟩
      · exact ⟨takers, h.quiet (congrArg Session.calls hsession) hreceived⟩

theorem exists_takers {actions : List OwnerAction} {sessionId : UInt32}
    (hrun : run ownerStep (.new sessionId) actions = some live) :
    ∃ takers, Answered takers live := by
  refine invariant_of_run (P := fun live => ∃ takers, Answered takers live)
    ⟨[], answered_new sessionId⟩ ?_ hrun
  rintro reached action next ⟨takers, hreached⟩ hnext
  exact hreached.ownerStep hnext

end Step

end LiveSession

namespace Wire

variable {md5 : List UInt8 → Digest} {obfuscationKey : Option (List UInt8)}
  {actions : List RunningConnection.Action} {wire : Wire} {index : Nat}

/-- The packets read from the stream so far that have the given id. -/
def arrived (md5 : List UInt8 → Digest) (obfuscationKey : Option (List UInt8)) (wire : Wire)
    (sessionId : UInt32) : List Packet :=
  entriesAt packetSession (TcpConnection.readHandler md5 ⟨obfuscationKey⟩ wire.consumed).outputs
    sessionId

theorem arrived_eq (hrun : run (step md5 obfuscationKey) .new actions = some wire)
    (sessionId : UInt32) :
    wire.arrived md5 obfuscationKey sessionId = entriesAt packetSession wire.handed sessionId := by
  have hread : ((readLoop md5 obfuscationKey).run wire.consumed).outputs = wire.handed := by
    have hall := (delivered_of_run hrun).read []
    rwa [StreamLoop.outputs_nil, List.append_nil, List.append_nil] at hall
  rw [arrived, TcpConnection.readHandler, hread]

/-- What a session was sent of the packets handed on, and which of its calls took them. -/
theorem exists_answered (hrun : run (step md5 obfuscationKey) .new actions = some wire)
    {session : Session}
    (hsession : wire.running.connection.sessions[index]? = some session) :
    ∃ (sessionChannel : SessionChannel) (before : Wire) (later : List Packet) (takers : List Nat),
      wire.sessionManager.sessions[index]? = some sessionChannel ∧
      RegistersAfter md5 obfuscationKey actions before index ∧
      entriesAt packetSession wire.handed session.sessionId =
        entriesAt packetSession before.handed session.sessionId ++ sessionChannel.channel.sent ++
          later ∧
      (later = wire.sessionManager.awaiting index ∨
        sessionChannel.channel.receiverDropped = true) ∧
      LiveSession.Answered takers ⟨session, ⟨wire.outgoing, sessionChannel.seen⟩⟩ := by
  have hdelivered := delivered_of_run hrun
  obtain ⟨sessionChannel, hchannel, hid⟩ := hdelivered.registered.exists_channel hsession
  obtain ⟨before, hregisters, hfiled⟩ :=
    hdelivered.filed index (List.getElem?_eq_some_iff.mp hchannel).1
  obtain ⟨later, hentries, hlater⟩ := hfiled sessionChannel hchannel
  obtain ⟨seen, hseen⟩ := RunningConnection.exists_run_view (running_of_run hrun) hsession
  obtain ⟨takers, hanswered⟩ := LiveSession.exists_takers hseen
  rw [Connection.view_of_some hsession hchannel] at hanswered
  exact ⟨sessionChannel, before, later, takers, hchannel, hregisters, hid ▸ hentries, hlater,
    hanswered⟩

/-- The packets handed on for a session since it was registered go to its calls from the first one
on. -/
theorem exists_takers (hrun : run (step md5 obfuscationKey) .new actions = some wire)
    {session : Session}
    (hsession : wire.running.connection.sessions[index]? = some session) :
    ∃ before takers, RegistersAfter md5 obfuscationKey actions before index ∧
      Attributed (fun callIndex packet => session.responseOf callIndex = some packet) takers
        (((entriesAt packetSession wire.handed session.sessionId).drop
          (entriesAt packetSession before.handed session.sessionId).length).take takers.length) ∧
      ∀ callIndex call, session.calls[callIndex]? = some call → call.Settled ∧
        (call.response ≠ none → callIndex ∈ takers) := by
  obtain ⟨sessionChannel, before, later, takers, -, hregisters, hentries, -, hanswered⟩ :=
    exists_answered hrun hsession
  have hreceived : (((entriesAt packetSession wire.handed session.sessionId).drop
      (entriesAt packetSession before.handed session.sessionId).length).take takers.length) =
        sessionChannel.channel.received := by
    have hlength : takers.length = sessionChannel.channel.taken :=
      hanswered.taken.length_eq.trans (Channel.length_received _)
    rw [hentries, List.append_assoc, List.drop_left, hlength,
      List.take_append_of_le_length sessionChannel.channel.taken_le, Channel.received]
  refine ⟨before, takers, hregisters, hreceived ▸ hanswered.taken, fun callIndex call hcall => ?_⟩
  refine ⟨hanswered.settled call (List.mem_of_getElem? hcall), fun hresponse => ?_⟩
  rw [← Session.responseOf_eq hcall] at hresponse
  exact hanswered.takers callIndex hresponse

/-- In every run, every reply that a call has returned is what a packet decodes to that was read
from the stream with the id of the call's session; the packets with this id that came since the
session was registered go to its calls from the first one on, each to one call, and a call that has
got one returns nothing but what it decodes to. -/
theorem replies_come_from_the_stream
    (hrun : run (step md5 obfuscationKey) .new actions = some wire) {session : Session}
    (hsession : wire.running.connection.sessions[index]? = some session) :
    ∃ before takers, RegistersAfter md5 obfuscationKey actions before index ∧
      Attributed (fun callIndex packet => session.responseOf callIndex = some packet) takers
        (((wire.arrived md5 obfuscationKey session.sessionId).drop
          (before.arrived md5 obfuscationKey session.sessionId).length).take takers.length) ∧
      (∀ callIndex packet, session.responseOf callIndex = some packet → callIndex ∈ takers ∧
        ∀ call result, session.calls[callIndex]? = some call → call.phase = .returned result →
          result = AccountingReply.fromBytes packet.body) ∧
      ∀ callIndex call reply, session.calls[callIndex]? = some call →
        call.phase = .returned (.ok reply) → callIndex ∈ takers ∧
          ∃ packet, session.responseOf callIndex = some packet ∧
            AccountingReply.fromBytes packet.body = .ok reply := by
  obtain ⟨before, takers, hregisters, htaken, hcalls⟩ := exists_takers hrun hsession
  have ⟨first, _, _, _, hfirst, _⟩ := hregisters
  refine ⟨before, takers, hregisters, ?_, ?_, ?_⟩
  · rw [arrived_eq hrun, arrived_eq hfirst]
    exact htaken
  · intro callIndex packet hpacket
    obtain ⟨call, hcall, hresponse⟩ := Session.exists_of_responseOf hpacket
    obtain ⟨hsettled, htakers⟩ := hcalls callIndex call hcall
    refine ⟨htakers (by simp [hresponse]), fun other result hother hreturned => ?_⟩
    obtain rfl : call = other := Option.some.inj (hcall.symm.trans hother)
    exact hsettled.result_eq hresponse hreturned
  · intro callIndex call reply hcall hreturned
    obtain ⟨hsettled, htakers⟩ := hcalls callIndex call hcall
    obtain ⟨packet, hresponse, hreply⟩ := hsettled.of_returned hreturned
    refine ⟨htakers (by simp [hresponse]), packet, ?_, hreply⟩
    rw [Session.responseOf_eq hcall, hresponse]

/-- A call waits in line and takes its reply. -/
def replyRun (index callIndex : Nat) : List Connection.Action :=
  [.joinWrite, .acquire, .receive, .complete].map (.poll index callIndex)

/-- The calls of `answeringRun` take their replies, on the first session the second call first. -/
def repliedRun : List RunningConnection.Action :=
  answeringRun ++ (replyRun 0 1 ++ replyRun 1 0 ++ replyRun 0 0).map .owner

theorem replies_come_from_the_stream_repliedRun :
    ∃ wire, run (step RunningConnection.noDigest (some [107])) .new repliedRun = some wire ∧
      ∃ session : Session, wire.running.connection.sessions[0]? = some session ∧
        session.calls.map Call.phase = List.replicate 2
          (.returned (.ok ⟨.tacPlusAcctStatusSuccess, "", ""⟩)) ∧
        ∃ before takers,
          RegistersAfter RunningConnection.noDigest (some [107]) repliedRun before 0 ∧
          Attributed (fun callIndex packet => session.responseOf callIndex = some packet) takers
            (((wire.arrived RunningConnection.noDigest (some [107]) session.sessionId).drop
              (before.arrived RunningConnection.noDigest (some [107])
                session.sessionId).length).take takers.length) ∧
          (∀ callIndex packet, session.responseOf callIndex = some packet →
            callIndex ∈ takers ∧ ∀ call result, session.calls[callIndex]? = some call →
              call.phase = .returned result →
                result = AccountingReply.fromBytes packet.body) ∧
          ∀ callIndex call reply, session.calls[callIndex]? = some call →
            call.phase = .returned (.ok reply) → callIndex ∈ takers ∧
              ∃ packet, session.responseOf callIndex = some packet ∧
                AccountingReply.fromBytes packet.body = .ok reply := by
  have hfacts : (run (step RunningConnection.noDigest (some [107])) .new repliedRun).map
      (fun wire => wire.running.connection.sessions[0]?.map fun session =>
        session.calls.map Call.phase) =
      some (some (List.replicate 2 (.returned (.ok ⟨.tacPlusAcctStatusSuccess, "", ""⟩)))) := by
    decide +kernel
  obtain ⟨wire, hrun, hsessions⟩ := Option.map_eq_some_iff.mp hfacts
  obtain ⟨session, hsession, hphases⟩ := Option.map_eq_some_iff.mp hsessions
  exact ⟨wire, hrun, session, hsession, hphases, replies_come_from_the_stream hrun hsession⟩

end Wire

end TacacsRs.Networking
