import TacacsRs.Networking.AnsweredCalls
import TacacsRs.Networking.Exchange

/-!
# Requests that the peer has heard

A call that waits for an answer has its request on the outgoing queue, and it
waits until it has taken a packet. As soon as the writer waits for a packet, the
peer has heard every request; a peer that then answers each of them leaves no
call waiting, and none without its reply.
-/

namespace TacacsRs.Networking

open Rust Messages TacacsFlags

/-- A call that asks and is over has taken a packet. -/
theorem Call.response_isSome {call : Call} (hasks : call.asks = true)
    (hover : call.phase.isOver = true) : call.response.isSome = true := by
  cases hphase : call.phase with
  | returned | abandoned => simpa [Call.asks, CallPhase.awaitsPacket, hphase] using hasks
  | _ => simp [hphase, CallPhase.isOver] at hover

namespace Connection

/-- The call waits for a packet or has taken one, unless it was given up or the connection is
gone. -/
def AsksOn (connection : Connection) (call : Call) : Prop :=
  call.asks = true ∨ call.phase = .abandoned ∨ connection.dropped = true

/-- The step queues a packet of the call. -/
def Queues (connection : Connection) (action : Action) (next : Connection)
    (author : Nat × Nat) : Prop :=
  action = .poll author.1 author.2 .send ∧
    next.sessionManager.outgoing.sent ≠ connection.sessionManager.outgoing.sent

/-- The call asks for nothing that it has not asked for before, and asks on for what it has. -/
structure AsksAlike (connection next : Connection) (author : Nat × Nat) (call' : Call) :
    Prop where
  before : call'.asks = true →
    ∃ call, connection.callAt author.1 author.2 = some call ∧ call.asks = true
  after : ∀ call, connection.callAt author.1 author.2 = some call → connection.AsksOn call →
    next.AsksOn call'

section Step

variable {connection next : Connection} {action : Action} {author : Nat × Nat} {call call' : Call}
  {authors : List (Nat × Nat)}

theorem Step.dropped_of_dropped (hstep : Step connection action next)
    (hdropped : connection.dropped = true) : next.dropped = true := by
  by_cases haction : action = .dropConnection
  · subst haction
    cases hstep
    rfl
  · rw [hstep.dropped_eq haction]
    exact hdropped

theorem AsksAlike.of_same (hstep : Step connection action next)
    (hcall : connection.callAt author.1 author.2 = some call) :
    connection.AsksAlike next author call where
  before := fun hasks => ⟨call, hcall, hasks⟩
  after := by
    intro found hfound hon
    obtain rfl := Option.some.inj (hcall.symm.trans hfound)
    exact hon.imp_right (Or.imp_right hstep.dropped_of_dropped)

/-- A call that was not there asks for nothing yet. -/
theorem AsksAlike.of_fresh (hnone : connection.callAt author.1 author.2 = none)
    (hasks : call.asks = false) : connection.AsksAlike next author call where
  before := by simp [hasks]
  after := by simp [hnone]

/-- A call that is polled asks on: only a connection that is gone has dropped the senders of its
sessions. -/
theorem AsksOn.polled (h : connection.AsksOn call) (hmatched : connection.Matched)
    {sessionChannel : SessionChannel}
    (hchannel : sessionChannel ∈ connection.sessionManager.sessions)
    (hgoing : call.phase.isOver = false)
    (hafter : call.asks = true → call'.asks = true ∨ call'.phase = .abandoned ∨
      sessionChannel.channel.sendersDropped = true) : connection.AsksOn call' := by
  rcases h with hasks | habandoned | hdropped
  · refine (hafter hasks).imp_right (Or.imp_right fun hclosed => ?_)
    by_contra hpresent
    have hopen := hmatched.connected (Bool.eq_false_iff.mpr hpresent) sessionChannel hchannel
    exact Bool.false_ne_true (hopen.symm.trans hclosed)
  · simp [habandoned, CallPhase.isOver] at hgoing
  · exact .inr (.inr hdropped)

/-- A call comes to ask when its request is queued, and then asks on. -/
theorem Step.asks_cases (hstep : Step connection action next) (hmatched : connection.Matched)
    (hcall' : next.callAt author.1 author.2 = some call') :
    (connection.Queues action next author ∧ call'.asks = true) ∨
      ¬ connection.Queues action next author ∧ connection.AsksAlike next author call' := by
  have hkept (hcall : connection.callAt author.1 author.2 = some call') :
      connection.AsksAlike next author call' := .of_same hstep hcall
  have hquiet (hother : action ≠ .poll author.1 author.2 .send) :
      ¬ connection.Queues action next author := fun hqueues => hother hqueues.1
  obtain ⟨session', hsession', hcalls'⟩ := callAt_eq_some_iff.mp hcall'
  cases hstep with
  | manage action manager event hpresent howner hstep =>
      refine .inr ⟨hquiet (by simp), hkept (callAt_eq_some_iff.mpr ⟨session', ?_, hcalls'⟩)⟩
      exact getElem?_of_call hsession' hcalls'
  | start index request session sessionChannel hsession =>
      refine .inr ⟨hquiet (by simp), ?_⟩
      rcases getElem?_set_cases hsession' with ⟨hindex, rfl⟩ | ⟨-, hold⟩
      · rcases getElem?_append_singleton_cases hcalls' with ⟨hlast, rfl⟩ | hold
        · apply AsksAlike.of_fresh _ rfl
          rw [callAt, hindex, hsession, hlast]
          exact List.getElem?_eq_none (Nat.le_refl _)
        · exact hkept (callAt_eq_some_iff.mpr ⟨session, hindex ▸ hsession, hold⟩)
      · exact hkept (callAt_eq_some_iff.mpr ⟨session', hold, hcalls'⟩)
  | poll index callIndex poll session polled sessionChannel duplexChannel hsession hchannel
      hpoll =>
      obtain ⟨running, hrunning, hpolled⟩ := Session.poll_eq_some hpoll
      obtain ⟨after, hafter, hasks⟩ := hpolled.asks
      by_cases hindex : (index, callIndex) = author
      · subst hindex
        obtain rfl : polled = session' :=
          Option.some.inj ((getElem?_set_of_some hsession polled).symm.trans hsession')
        obtain rfl : after = call' := by
          rw [hafter, getElem?_set_of_some hrunning] at hcalls'
          exact Option.some.inj hcalls'
        have hcall := callAt_eq_some_iff.mpr ⟨session, hsession, hrunning⟩
        rcases hasks with ⟨packet, rfl, -, hasked, hsent⟩ | ⟨hsent, hbefore, hon⟩
        · exact .inl ⟨⟨rfl, by simp [hsent]⟩, hasked⟩
        · refine .inr ⟨fun hqueues => hqueues.2 hsent, fun h => ⟨running, hcall, hbefore h⟩, ?_⟩
          intro found hfound hfoundOn
          obtain rfl := Option.some.inj (hcall.symm.trans hfound)
          exact hfoundOn.polled hmatched (List.mem_of_getElem? hchannel) hpolled.isOver_eq hon
      · refine .inr ⟨hquiet ?_, hkept (callAt_eq_some_iff.mpr ?_)⟩
        · rintro haction
          obtain ⟨hsame, hsameCall, -⟩ := Action.poll.inj haction
          exact hindex (Prod.ext hsame hsameCall)
        · rcases getElem?_set_cases hsession' with ⟨hsame, rfl⟩ | ⟨-, hold⟩
          · rw [hafter] at hcalls'
            rcases getElem?_set_cases hcalls' with ⟨hsameCall, -⟩ | ⟨-, hold⟩
            · exact absurd (Prod.ext hsame.symm hsameCall.symm) hindex
            · exact ⟨session, hsame ▸ hsession, hold⟩
          · exact ⟨session', hold, hcalls'⟩
  | dropSession | takeOutgoing | closeOutgoing | dropConnection =>
      exact .inr ⟨hquiet (by simp), hkept hcall'⟩

/-- The authors of the queued packets are the calls that ask, but for those that were given up and
those of a connection that is gone. -/
structure Heard (connection : Connection) (authors : List (Nat × Nat)) : Prop where
  authored : connection.Authored authors
  asking : ∀ author call, connection.callAt author.1 author.2 = some call →
    call.asks = true → author ∈ authors
  asksOn : ∀ author ∈ authors, ∀ call, connection.callAt author.1 author.2 = some call →
    connection.AsksOn call

theorem heard_new : Heard .new [] where
  authored := authored_new
  asking := by simp [new, callAt]
  asksOn := by simp

/-- The author of a packet is one of the calls. -/
theorem Authored.exists_call (h : connection.Authored authors) (hmem : author ∈ authors) :
    ∃ call, connection.callAt author.1 author.2 = some call := by
  obtain ⟨_, _, -, -, session, call, -, hsession, hcall, -⟩ := h.authored.exists_item hmem
  exact ⟨call, callAt_eq_some_iff.mpr ⟨session, hsession, hcall⟩⟩

theorem Heard.step (h : connection.Heard authors) (hmatched : connection.Matched)
    (hstep : Step connection action next) : ∃ authors', next.Heard authors' := by
  have hasking {author : Nat × Nat} {call' : Call}
      (halike : connection.AsksAlike next author call') (hasks : call'.asks = true) :
      author ∈ authors := by
    obtain ⟨call, hcall, hasked⟩ := halike.before hasks
    exact h.asking author call hcall hasked
  have hasksOn {author : Nat × Nat} {call' : Call} (hmem : author ∈ authors)
      (halike : connection.AsksAlike next author call') : next.AsksOn call' := by
    obtain ⟨call, hcall⟩ := h.authored.exists_call hmem
    exact halike.after call hcall (h.asksOn author hmem call hcall)
  rcases h.authored.step_cases hstep with
    ⟨hsame, hauthored⟩ | ⟨index, callIndex, packet, haction, hqueued, hauthored⟩
  · refine ⟨authors, hauthored, fun author call' hcall' hasks => ?_,
      fun author hmem call' hcall' => ?_⟩
    · rcases hstep.asks_cases hmatched hcall' with ⟨hqueues, -⟩ | ⟨-, halike⟩
      · exact absurd hsame hqueues.2
      · exact hasking halike hasks
    · rcases hstep.asks_cases hmatched hcall' with ⟨-, hasked⟩ | ⟨-, halike⟩
      · exact .inl hasked
      · exact hasksOn hmem halike
  · have hmore : next.sessionManager.outgoing.sent ≠ connection.sessionManager.outgoing.sent := by
      simp [hqueued]
    refine ⟨authors ++ [(index, callIndex)], hauthored, fun author call' hcall' hasks => ?_,
      fun author hmem call' hcall' => ?_⟩
    · rcases hstep.asks_cases hmatched hcall' with ⟨hqueues, -⟩ | ⟨-, halike⟩
      · obtain ⟨hsame, hsameCall, -⟩ := Action.poll.inj (haction.symm.trans hqueues.1)
        exact List.mem_append_right _ (List.mem_singleton.mpr (Prod.ext hsame.symm hsameCall.symm))
      · exact List.mem_append_left _ (hasking halike hasks)
    · rcases hstep.asks_cases hmatched hcall' with ⟨-, hasked⟩ | ⟨hquiet, halike⟩
      · exact .inl hasked
      · rcases List.mem_append.mp hmem with hold | hnew
        · exact hasksOn hold halike
        · obtain rfl := List.mem_singleton.mp hnew
          exact absurd ⟨haction, hmore⟩ hquiet

/-- As long as the connection is there, the author of a packet asks, or was given up. -/
theorem Heard.asks_or_abandoned (h : connection.Heard authors)
    (hpresent : connection.dropped = false) (hmem : author ∈ authors)
    (hcall : connection.callAt author.1 author.2 = some call) :
    call.asks = true ∨ call.phase = .abandoned := by
  rcases h.asksOn author hmem call hcall with hasks | habandoned | hdropped
  · exact .inl hasks
  · exact .inr habandoned
  · simp [hpresent] at hdropped

theorem Heard.complete (h : connection.Heard authors) {index : Nat} {session : Session}
    (hsession : connection.sessions[index]? = some session) :
    Heard { connection with sessions := connection.sessions.set index session.complete }
      authors := by
  have hsame (author : Nat × Nat) : callAt { connection with
      sessions := connection.sessions.set index session.complete } author.1 author.2 =
        connection.callAt author.1 author.2 := by
    refine (callAt_set hsession rfl (show session.complete.calls = session.calls from rfl)
      author.1).trans ?_
    split
    · next heq => rw [callAt, heq, hsession, Option.bind_some]
    · rfl
  refine ⟨h.authored.complete hsession, fun author call hcall => ?_,
    fun author hmem call hcall => ?_⟩
  · exact h.asking author call (hsame author ▸ hcall)
  · exact h.asksOn author hmem call (hsame author ▸ hcall)

end Step

end Connection

namespace Wire

variable {md5 : List UInt8 → Digest} {obfuscationKey : Option (List UInt8)}
  {actions : List RunningConnection.Action} {wire : Wire} {index : Nat}

/-- In every run in which nothing is queued by hand, the calls that ask are among the authors of the
queued packets. -/
theorem exists_heard (hrun : run (step md5 obfuscationKey) .new actions = some wire)
    (hunqueued : ∀ index request, .queueRequest index request ∉ actions) :
    ∃ authors, wire.running.connection.Heard authors := by
  have hkept : wire.running.connection.Matched ∧
      ∃ authors, wire.running.connection.Heard authors := by
    refine RunningConnection.connection_invariant_of_unqueued (P := fun connection =>
      connection.Matched ∧ ∃ authors, connection.Heard authors)
      ⟨Connection.matched_new, [], Connection.heard_new⟩ ?_ ?_ hunqueued (running_of_run hrun)
    · rintro connection action next ⟨hmatched, authors, hheard⟩ hstep
      exact ⟨hmatched.step hstep, hheard.step hmatched hstep⟩
    · rintro connection index session ⟨hmatched, authors, hheard⟩ hsession
      exact ⟨hmatched.complete hsession, authors, hheard.complete hsession⟩
  exact hkept.2

/-- A peer that reads what is written out has read all that was queued, when the writer waits for a
packet. -/
theorem read_written (hrun : run (step md5 obfuscationKey) .new actions = some wire)
    (hunqueued : ∀ index request, .queueRequest index request ∉ actions)
    (hsized : ∀ session ∈ wire.running.connection.sessions, ∀ call ∈ session.calls,
      call.request.toBytes.length < 2 ^ 32)
    (hreceiving : wire.running.writeTask = .receiving) (hempty : wire.outgoing.queue = []) :
    (TcpConnection.readHandler md5 ⟨obfuscationKey⟩ wire.written.flatten).outputs =
      wire.outgoing.sent := by
  have hqueued : ∀ packet ∈ wire.outgoing.sent,
      packet.SelfConsistent ∧ packet.header.flags = tacPlusUnencryptedFlag :=
    fun packet hpacket => queued_of_run hrun hunqueued hsized hpacket
  have hframed := framed_of_run hrun fun packet hpacket => (hqueued packet hpacket).1
  obtain ⟨unfinished, hsplit, -, hcurrent⟩ := hframed.unfinished
  have hnone : unfinished = [] := by
    rw [hcurrent (by simp [hreceiving]), hreceiving]
    rfl
  rw [hnone, List.append_nil] at hsplit
  have hall : wire.outgoing.received = wire.outgoing.sent := by
    have hsent := Channel.received_append_queue wire.outgoing
    rwa [hempty, List.append_nil] at hsent
  rw [← hsplit, hframed.begun, hall]
  exact read_frames md5 obfuscationKey hqueued

/-- When the writer waits for a packet, no request is lost: the peer has read every packet queued,
one for each call that waits for an answer or has got one, and each is that of such a call or of
one that was given up, where nothing is queued by hand. -/
theorem no_request_is_lost (hrun : run (step md5 obfuscationKey) .new actions = some wire)
    (hunqueued : ∀ index request, .queueRequest index request ∉ actions)
    (hsized : ∀ session ∈ wire.running.connection.sessions, ∀ call ∈ session.calls,
      call.request.toBytes.length < 2 ^ 32)
    (hreceiving : wire.running.writeTask = .receiving) (hempty : wire.outgoing.queue = []) :
    let read := (TcpConnection.readHandler md5 ⟨obfuscationKey⟩ wire.written.flatten).outputs
    read = wire.outgoing.sent ∧
      ∃ authors, Attributed wire.running.connection.Wrote authors read ∧
        ∀ author call, wire.running.connection.callAt author.1 author.2 = some call →
          (call.asks = true → author ∈ authors) ∧
            (author ∈ authors → call.asks = true ∨ call.phase = .abandoned) := by
  intro read
  have hread : read = wire.outgoing.sent := read_written hrun hunqueued hsized hreceiving hempty
  obtain ⟨authors, hheard⟩ := exists_heard hrun hunqueued
  have hpresent := (RunningConnection.consistent_of_run (running_of_run hrun)).present
    (.inr (.inl (by rw [hreceiving]; rfl)))
  refine ⟨hread, authors, hread ▸ hheard.authored.authored, fun author call hcall => ?_⟩
  exact ⟨hheard.asking author call hcall, fun hmem => hheard.asks_or_abandoned hpresent hmem hcall⟩

theorem unqueued_repliedRun (index : Nat) (request : Packet) :
    .queueRequest index request ∉ repliedRun := by
  simp [repliedRun, answeringRun, replyRun, unqueued_sendingRun]

/-- The peer of `repliedRun` has read the three requests. -/
theorem no_request_is_lost_repliedRun :
    ∃ wire, run (step RunningConnection.noDigest (some [107])) .new repliedRun = some wire ∧
      let read := (TcpConnection.readHandler RunningConnection.noDigest ⟨some [107]⟩
        wire.written.flatten).outputs
      wire.outgoing.sent.length = 3 ∧ read = wire.outgoing.sent ∧
        ∃ authors, Attributed wire.running.connection.Wrote authors read ∧
          ∀ author call, wire.running.connection.callAt author.1 author.2 = some call →
            (call.asks = true → author ∈ authors) ∧
              (author ∈ authors → call.asks = true ∨ call.phase = .abandoned) := by
  have hfacts : (run (step RunningConnection.noDigest (some [107])) .new repliedRun).map
      (fun wire => (wire.running.writeTask, wire.outgoing.queue, wire.outgoing.sent.length,
        wire.running.connection.sessions.all fun session => session.calls.all fun call =>
          call.request.toBytes.length < 2 ^ 32)) = some (.receiving, [], 3, true) := by
    decide +kernel
  obtain ⟨wire, hrun, hfields⟩ := Option.map_eq_some_iff.mp hfacts
  simp only [Prod.mk.injEq, List.all_eq_true, decide_eq_true_eq] at hfields
  obtain ⟨hreceiving, hempty, hsent, hsized⟩ := hfields
  exact ⟨wire, hrun, hsent,
    no_request_is_lost hrun unqueued_repliedRun hsized hreceiving hempty⟩

/-- A peer that answers leaves no request without its reply. Let nothing be queued by hand, the
connection be at rest with a writer that waits for a packet, all that the peer has written be read,
and the peer have written as many replies to a session as it has read requests of it. Then every
call of the session is over, and each whose request was read returns a reply of its own, or was
given up. -/
theorem heard_requests_are_answered
    (hrun : run (step md5 obfuscationKey) .new actions = some wire)
    (hunqueued : ∀ index request, .queueRequest index request ∉ actions)
    (hidle : wire.running.Idle md5 obfuscationKey)
    (hreceiving : wire.running.writeTask = .receiving)
    (hsized : ∀ session ∈ wire.running.connection.sessions, ∀ call ∈ session.calls,
      call.request.toBytes.length < 2 ^ 32)
    {packets : List Packet} (hpackets : ∀ packet ∈ packets,
      packet.SelfConsistent ∧ packet.header.flags = tacPlusUnencryptedFlag)
    (hreplies : ∀ packet ∈ packets, ∃ reply : AccountingReply,
      reply.Representable ∧ packet.body = reply.toBytes)
    (hstream : wire.consumed =
      (TcpConnection.writeHandler md5 ⟨obfuscationKey⟩ packets).1.flatten)
    {session : Session} (hsession : wire.running.connection.sessions[index]? = some session)
    {before : Wire} (hregisters : RegistersAfter md5 obfuscationKey actions before index)
    (hanswered : (before.arrived md5 obfuscationKey session.sessionId).length +
      (entriesAt packetSession (TcpConnection.readHandler md5 ⟨obfuscationKey⟩
        wire.written.flatten).outputs session.sessionId).length ≤
          (entriesAt packetSession packets session.sessionId).length) :
    ∃ authors takers replies, Attributed wire.running.connection.Wrote authors
        (TcpConnection.readHandler md5 ⟨obfuscationKey⟩ wire.written.flatten).outputs ∧
      (((entriesAt packetSession packets session.sessionId).drop
        (before.arrived md5 obfuscationKey session.sessionId).length).take
          takers.length).map Packet.body = replies.map AccountingReply.toBytes ∧
      Attributed session.Gets takers replies ∧
      ∀ (callIndex : Nat) (call : Call), session.calls[callIndex]? = some call →
        call.phase.isOver = true ∧ ((index, callIndex) ∈ authors → call.phase = .abandoned ∨
          callIndex ∈ takers ∧ ∃ reply ∈ replies, call.phase = .returned (.ok reply)) := by
  have hconsistent := RunningConnection.consistent_of_run (running_of_run hrun)
  have hpresent := hconsistent.present (.inr (.inl (by rw [hreceiving]; rfl)))
  have hempty : wire.outgoing.queue = [] := by
    by_contra hqueue
    have hsome : (wire.running.step md5 obfuscationKey .takeOutgoing).isSome = true :=
      hconsistent.takeOutgoing_isSome hreceiving hqueue
    simp [hidle .takeOutgoing rfl] at hsome
  have hread := read_written hrun hunqueued hsized hreceiving hempty
  have ⟨first, _, _, _, hfirst, _⟩ := hregisters
  have hhanded : entriesAt packetSession wire.handed session.sessionId =
      entriesAt packetSession packets session.sessionId := by
    rw [← arrived_eq hrun, arrived, hstream, read_of_peer md5 obfuscationKey hpackets]
  rw [arrived_eq hfirst, hread, ← hhanded] at hanswered
  have hover := over_of_answered hrun hidle hsession hregisters hanswered
  obtain ⟨authors, hheard⟩ := exists_heard hrun hunqueued
  obtain ⟨other, takers, replies, hother, -, hbodies, hgets, hcalls⟩ :=
    exists_replies hrun hpackets hreplies (hstream ▸ List.prefix_rfl) hsession
  obtain rfl := hregisters.unique hother
  rw [arrived_eq hfirst]
  refine ⟨authors, takers, replies, hread ▸ hheard.authored.authored, hbodies, hgets,
    fun callIndex call hcall => ?_⟩
  have hended : call.phase.isOver = true := by
    rcases hover call (List.mem_of_getElem? hcall) with
      hended | ⟨packet, -, -, hnotCalled | ⟨bytes, hwriting⟩⟩
    · exact hended
    · simp [(hconsistent.notSpawned hnotCalled).2] at hreceiving
    · simp [hwriting] at hreceiving
  refine ⟨hended, fun hmem => ?_⟩
  rcases hheard.asks_or_abandoned hpresent hmem
    (Connection.callAt_eq_some_iff.mpr ⟨session, hsession, hcall⟩) with hasks | habandoned
  · -- a call that asks and is over has taken a packet, and so it has got the reply in it
    have hresponse := Option.isSome_iff_ne_none.mp (Call.response_isSome hasks hended)
    have htaker := (hcalls callIndex call hcall).2 hresponse
    obtain ⟨place, reply, hreply, -, found, _, hfound, -, -, hphase⟩ := hgets.exists_item htaker
    obtain rfl := Option.some.inj (hcall.symm.trans hfound)
    rcases hphase with hcompleting | hreturned | habandoned
    · simp [hcompleting, CallPhase.isOver] at hended
    · exact .inr ⟨htaker, reply, List.mem_of_getElem? hreply, hreturned⟩
    · exact .inl habandoned
  · exact .inl habandoned

/-- The peer of `repliedRun` has read the requests and written their replies. -/
theorem heard_requests_are_answered_repliedRun :
    ∃ wire, run (step RunningConnection.noDigest none) .new repliedRun = some wire ∧
      ∃ session : Session, wire.running.connection.sessions[0]? = some session ∧
        session.calls.length = 2 ∧
        ∃ before, RegistersAfter RunningConnection.noDigest none repliedRun before 0 ∧
        ∃ authors takers replies, Attributed wire.running.connection.Wrote authors
            (TcpConnection.readHandler RunningConnection.noDigest ⟨none⟩
              wire.written.flatten).outputs ∧
          (((entriesAt packetSession answers session.sessionId).drop
            (before.arrived RunningConnection.noDigest none session.sessionId).length).take
              takers.length).map Packet.body = replies.map AccountingReply.toBytes ∧
          Attributed session.Gets takers replies ∧
          ∀ (callIndex : Nat) (call : Call), session.calls[callIndex]? = some call →
            call.phase.isOver = true ∧ ((0, callIndex) ∈ authors → call.phase = .abandoned ∨
              callIndex ∈ takers ∧ ∃ reply ∈ replies, call.phase = .returned (.ok reply)) := by
  have hfacts : (run (step RunningConnection.noDigest none) .new repliedRun).map
      (fun wire => (wire.running.writeTask, wire.outgoing.queue, wire.consumed)) =
      some (.receiving, [], (TcpConnection.writeHandler RunningConnection.noDigest ⟨none⟩
        answers).1.flatten) := by decide +kernel
  have hsessions : (run (step RunningConnection.noDigest none) .new repliedRun).map
      (fun wire => (wire.running.connection.sessions.all (fun session =>
          session.calls.all fun call => call.request.toBytes.length < 2 ^ 32),
        wire.running.connection.sessions[0]?.map fun session => (session.calls.length,
          (entriesAt packetSession wire.outgoing.sent session.sessionId).length,
            (entriesAt packetSession answers session.sessionId).length))) =
      some (true, some (2, 2, 2)) := by decide +kernel
  obtain ⟨before, hregisters, hnone⟩ := registersAfter_repliedRun (List.mem_cons_self ..)
  have ⟨first, _, _, _, hfirst, _⟩ := hregisters
  obtain ⟨wire, hrun, hfields⟩ := Option.map_eq_some_iff.mp hfacts
  rw [hrun, Option.map_some, Option.some.injEq] at hsessions
  simp only [Prod.mk.injEq, Option.map_eq_some_iff, List.all_eq_true, decide_eq_true_eq]
    at hfields hsessions
  obtain ⟨hreceiving, hempty, hconsumed⟩ := hfields
  obtain ⟨hsized, session, hsession, hcalls, hsent, hwritten⟩ := hsessions
  have hanswered : (before.arrived RunningConnection.noDigest none
      session.sessionId).length + (entriesAt packetSession (TcpConnection.readHandler
        RunningConnection.noDigest ⟨none⟩ wire.written.flatten).outputs
          session.sessionId).length ≤
        (entriesAt packetSession answers session.sessionId).length := by
    rw [arrived_eq hfirst, hnone,
      read_written hrun unqueued_repliedRun hsized hreceiving hempty, hsent, hwritten]
    exact Nat.le_refl 2
  exact ⟨wire, hrun, session, hsession, hcalls, before, hregisters,
    heard_requests_are_answered hrun unqueued_repliedRun
      (idle_repliedRun (List.mem_cons_self ..) hrun) hreceiving hsized
      (by simp [answers, clear_replyTo]) (by simp [answers, exists_reply_replyTo]) hconsumed
      hsession hregisters hanswered⟩

end Wire

end TacacsRs.Networking
