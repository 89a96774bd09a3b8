import Mathlib.Algebra.Order.BigOperators.Group.List
import Mathlib.Algebra.Order.Group.Nat
import Mathlib.Data.List.Infix
import TacacsRs.Networking.ReplyOrigin

/-!
# What the two ends of a connection tell each other

The peer has the same key, and reads and writes as a connection does. It gets
the requests that the calls were given, and the calls get the replies that it
has sent to their sessions: in order, none twice, and none altered.
-/

namespace TacacsRs.Networking

open Rust Messages TacacsFlags

/-- A request that fits its lengths is far from the longest body. -/
theorem length_toBytes_lt {request : AccountingRequest} (h : request.Representable) :
    request.toBytes.length < 2 ^ 32 := by
  have hargs : (request.args.map len).sum ≤ (request.args.map len).length • 255 := by
    apply List.sum_le_card_nsmul
    intro size hsize
    obtain ⟨arg, harg, rfl⟩ := List.mem_map.mp hsize
    exact h.arg arg harg
  have huser := h.user
  have hport := h.port
  have hremAddress := h.remAddress
  have hcount := h.args
  rw [List.length_map, Nat.nsmul_eq_mul] at hargs
  rw [AccountingRequest.length_toBytes]
  omega

/-- The call was given the request. -/
def Connection.Given (connection : Connection) (author : Nat × Nat)
    (request : AccountingRequest) : Prop :=
  ∃ call, connection.callAt author.1 author.2 = some call ∧ call.request = request

/-- What a call has written decodes to the request that it was given. -/
theorem Connection.Wrote.given {connection : Connection} {author : Nat × Nat} {packet : Packet}
    (h : connection.Wrote author packet)
    (hrequests : ∀ session ∈ connection.sessions, ∀ call ∈ session.calls,
      call.request.flags.IsDeclared ∧ call.request.Representable) :
    ∃ request, connection.Given author request ∧
      AccountingRequest.fromBytes packet.body = .ok request := by
  obtain ⟨session, call, sequenceNumber, hsession, hcall, -, -, hpacket⟩ := h
  obtain ⟨hdeclared, hrepresentable⟩ := hrequests session (List.mem_of_getElem? hsession) call
    (List.mem_of_getElem? hcall)
  obtain ⟨hbody, -⟩ := Session.requestPacket_eq_ok hpacket
  refine ⟨call.request, ⟨call, callAt_eq_some_iff.mpr ⟨session, hsession, hcall⟩, rfl⟩, ?_⟩
  rw [hbody]
  exact AccountingRequest.fromBytes_eq_ok_iff.mpr
    ⟨hdeclared, hrepresentable, [], (List.append_nil _).symm⟩

namespace Wire

variable {md5 : List UInt8 → Digest} {obfuscationKey : Option (List UInt8)}
  {actions : List RunningConnection.Action} {wire : Wire} {index : Nat}

/-- Where nothing is queued by hand, a peer that reads what is on the wire, cut off at any byte
behind the last frame written out, decodes the requests that the calls were given: in the order in
which they were queued, each of another call, and all but the one that is being written and those
that are still in the queue. -/
theorem requests_arrive_as_given (hrun : run (step md5 obfuscationKey) .new actions = some wire)
    (hunqueued : ∀ index request, .queueRequest index request ∉ actions)
    (hrequests : ∀ session ∈ wire.running.connection.sessions, ∀ call ∈ session.calls,
      call.request.flags.IsDeclared ∧ call.request.Representable)
    {stream : List UInt8} (hwritten : wire.written.flatten <+: stream)
    (hbegun : stream <+: wire.begun.flatten) :
    let read := (TcpConnection.readHandler md5 ⟨obfuscationKey⟩ stream).outputs
    ∃ missed authors requests, wire.outgoing.sent = read ++ missed ∧
      missed.length ≤ wire.outgoing.queue.length + 1 ∧
      Attributed wire.running.connection.Wrote authors wire.outgoing.sent ∧
      read.map (fun packet => AccountingRequest.fromBytes packet.body) = requests.map .ok ∧
      Attributed wire.running.connection.Given (authors.take requests.length) requests := by
  have hsized : ∀ session ∈ wire.running.connection.sessions, ∀ call ∈ session.calls,
      call.request.toBytes.length < 2 ^ 32 :=
    fun session hsession call hcall => length_toBytes_lt (hrequests session hsession call hcall).2
  intro read
  obtain ⟨hfirst, hread, hlast⟩ := read_between hrun hunqueued hsized hwritten hbegun
  obtain ⟨missed, hsent, hmissed⟩ := exists_missed hfirst hread hlast
  obtain ⟨authors, hauthors⟩ := exists_authors hrun hunqueued
  have hstart : Attributed wire.running.connection.Wrote (authors.take read.length) read := by
    have htaken := hauthors.take read.length
    rwa [hsent, List.take_left] at htaken
  obtain ⟨requests, hgiven, hdecoded⟩ := hstart.exists_image
    (fun author packet _ hwrote => hwrote.given hrequests)
  have hlength : read.length = requests.length := by
    simpa using congrArg List.length hdecoded
  exact ⟨missed, authors, requests, hsent, hmissed, hauthors, hdecoded, hlength ▸ hgiven⟩

/-- The peer of `sendingRun` has everything that the write task has begun to write. -/
theorem requests_arrive_as_given_sendingRun :
    ∃ wire, run (step RunningConnection.noDigest (some [107])) .new sendingRun = some wire ∧
      wire.running.connection.sessions.map (fun session => session.calls.map Call.request) =
        [[Connection.requestOfCall, Connection.requestOfCall], [Connection.requestOfCall]] ∧
      let read := (TcpConnection.readHandler RunningConnection.noDigest ⟨some [107]⟩
        wire.begun.flatten).outputs
      ∃ missed authors requests, wire.outgoing.sent = read ++ missed ∧
        missed.length ≤ wire.outgoing.queue.length + 1 ∧
        Attributed wire.running.connection.Wrote authors wire.outgoing.sent ∧
        read.map (fun packet => AccountingRequest.fromBytes packet.body) = requests.map .ok ∧
        Attributed wire.running.connection.Given (authors.take requests.length) requests := by
  have hfacts : (run (step RunningConnection.noDigest (some [107])) .new sendingRun).map
      (fun wire => (wire.written.flatten.isPrefixOf wire.begun.flatten,
        wire.running.connection.sessions.all (fun session =>
          session.calls.all fun call => call.request = Connection.requestOfCall),
        wire.running.connection.sessions.map fun session => session.calls.map Call.request)) =
      some (true, true, [[Connection.requestOfCall, Connection.requestOfCall],
        [Connection.requestOfCall]]) := by
    decide +kernel
  obtain ⟨wire, hrun, hfields⟩ := Option.map_eq_some_iff.mp hfacts
  simp only [Prod.mk.injEq, List.all_eq_true, decide_eq_true_eq, List.isPrefixOf_iff_prefix]
    at hfields
  obtain ⟨hwritten, hgiven, hrequests⟩ := hfields
  refine ⟨wire, hrun, hrequests,
    requests_arrive_as_given hrun unqueued_sendingRun ?_ hwritten List.prefix_rfl⟩
  intro session hsession call hcall
  rw [hgiven session hsession call hcall]
  exact ⟨Tacon.isDeclared_accountingRequest ..,
    Tacon.representable_accountingRequest_iff.mpr (by decide)⟩

end Wire

/-- The call has taken a packet with the reply in it: it returns the reply, or is to return it, or
was abandoned with the reply in hand. -/
def Session.Gets (session : Session) (callIndex : Nat) (reply : AccountingReply) : Prop :=
  ∃ call packet, session.calls[callIndex]? = some call ∧ call.response = some packet ∧
    AccountingReply.fromBytes packet.body = .ok reply ∧
    (call.phase = .completing reply ∨ call.phase = .returned (.ok reply) ∨
      call.phase = .abandoned)

/-- A call that has taken a packet with a reply in it has got this reply. -/
theorem Call.Settled.gets {call : Call} {packet : Packet} {reply : AccountingReply}
    (h : call.Settled) (hresponse : call.response = some packet)
    (hreply : AccountingReply.fromBytes packet.body = .ok reply) :
    call.phase = .completing reply ∨ call.phase = .returned (.ok reply) ∨
      call.phase = .abandoned := by
  simp only [Settled, hresponse, hreply, Outcome.ok.injEq] at h
  rcases h with hreturned | ⟨other, rfl, hphase⟩
  · exact .inr (.inl hreturned)
  · exact hphase.imp_right .inr

namespace Wire

variable {md5 : List UInt8 → Digest} {obfuscationKey : Option (List UInt8)}
  {actions : List RunningConnection.Action} {wire : Wire} {index : Nat}

/-- What a peer writes in the clear is read as it was written. -/
theorem read_of_peer (md5 : List UInt8 → Digest) (obfuscationKey : Option (List UInt8))
    {packets : List Packet} (hpackets : ∀ packet ∈ packets,
      packet.SelfConsistent ∧ packet.header.flags = tacPlusUnencryptedFlag) :
    (TcpConnection.readHandler md5 ⟨obfuscationKey⟩
      (TcpConnection.writeHandler md5 ⟨obfuscationKey⟩ packets).1.flatten).outputs = packets := by
  have hlength : ∀ packet ∈ packets, packet.body.length = packet.header.length.toNat :=
    fun packet hpacket => Packet.selfConsistent_iff.mp (hpackets packet hpacket).1
  rw [TcpConnection.writeHandler, writeLoop_eq md5 obfuscationKey hlength]
  exact read_frames md5 obfuscationKey hpackets

/-- What is handed on of the stream of a peer are the first packets that the peer has written. -/
theorem handed_of_peer (hrun : run (step md5 obfuscationKey) .new actions = some wire)
    {packets : List Packet} (hpackets : ∀ packet ∈ packets,
      packet.SelfConsistent ∧ packet.header.flags = tacPlusUnencryptedFlag)
    (hstream : wire.consumed <+:
      (TcpConnection.writeHandler md5 ⟨obfuscationKey⟩ packets).1.flatten) :
    wire.handed <+: packets := by
  obtain ⟨more, hmore⟩ := hstream
  have hread := (delivered_of_run hrun).read more
  have hwritten := read_of_peer md5 obfuscationKey hpackets
  rw [TcpConnection.readHandler, ← hmore, hread] at hwritten
  exact hwritten ▸ List.prefix_append _ _

/-- The replies that a peer has written since a session was registered go to its calls, each to one
call. -/
theorem exists_replies (hrun : run (step md5 obfuscationKey) .new actions = some wire)
    {packets : List Packet}
    (hpackets : ∀ packet ∈ packets,
      packet.SelfConsistent ∧ packet.header.flags = tacPlusUnencryptedFlag)
    (hreplies : ∀ packet ∈ packets, ∃ reply : AccountingReply,
      reply.Representable ∧ packet.body = reply.toBytes)
    (hstream : wire.consumed <+:
      (TcpConnection.writeHandler md5 ⟨obfuscationKey⟩ packets).1.flatten)
    {session : Session} (hsession : wire.running.connection.sessions[index]? = some session) :
    ∃ before takers replies, RegistersAfter md5 obfuscationKey actions before index ∧
      Attributed (fun callIndex packet => session.responseOf callIndex = some packet) takers
        (((entriesAt packetSession packets session.sessionId).drop
          (entriesAt packetSession before.handed session.sessionId).length).take
            takers.length) ∧
      (((entriesAt packetSession packets session.sessionId).drop
        (entriesAt packetSession before.handed session.sessionId).length).take
          takers.length).map Packet.body = replies.map AccountingReply.toBytes ∧
      Attributed session.Gets takers replies ∧
      ∀ callIndex call, session.calls[callIndex]? = some call → call.Settled ∧
        (call.response ≠ none → callIndex ∈ takers) := by
  obtain ⟨before, takers, hregisters, htaken, hcalls⟩ := exists_takers hrun hsession
  -- what the calls have taken was handed on, so it is the same in what the peer has written
  have hwritten : ((entriesAt packetSession packets session.sessionId).drop
      (entriesAt packetSession before.handed session.sessionId).length).take takers.length =
        ((entriesAt packetSession wire.handed session.sessionId).drop
          (entriesAt packetSession before.handed session.sessionId).length).take
            takers.length := by
    have hlong := htaken.length_eq.le
    rw [List.length_take, le_min_iff] at hlong
    have hentries : entriesAt packetSession wire.handed session.sessionId <+:
        entriesAt packetSession packets session.sessionId :=
      (handed_of_peer hrun hpackets hstream).filter _
    obtain ⟨more, hmore⟩ := List.IsPrefix.drop hentries
      (entriesAt packetSession before.handed session.sessionId).length
    rw [← hmore, List.take_append_of_le_length hlong.2]
  rw [← hwritten] at htaken
  have hsource : ∀ callIndex, ∀ packet ∈ ((entriesAt packetSession packets session.sessionId).drop
      (entriesAt packetSession before.handed session.sessionId).length).take takers.length,
      session.responseOf callIndex = some packet →
        ∃ reply, session.Gets callIndex reply ∧ packet.body = reply.toBytes := by
    intro callIndex packet hpacket htook
    obtain ⟨reply, hrepresentable, hbody⟩ := hreplies packet
      (List.mem_of_mem_filter (List.mem_of_mem_drop (List.mem_of_mem_take hpacket)))
    obtain ⟨call, hcall, hresponse⟩ := Session.exists_of_responseOf htook
    have hreply : AccountingReply.fromBytes packet.body = .ok reply :=
      AccountingReply.fromBytes_eq_ok_iff.mpr
        ⟨hrepresentable, [], by rw [List.append_nil, hbody]⟩
    exact ⟨reply, ⟨call, packet, hcall, hresponse, hreply,
      (hcalls callIndex call hcall).1.gets hresponse hreply⟩, hbody⟩
  obtain ⟨replies, hgets, hbodies⟩ := htaken.exists_image hsource
  exact ⟨before, takers, replies, hregisters, htaken, hbodies, hgets, hcalls⟩

theorem clear_replyTo (sessionId : UInt32) : (SessionManager.replyTo sessionId).SelfConsistent ∧
    (SessionManager.replyTo sessionId).header.flags = tacPlusUnencryptedFlag :=
  ⟨Packet.selfConsistent_iff.mpr rfl, rfl⟩

theorem exists_reply_replyTo (sessionId : UInt32) : ∃ reply : AccountingReply,
    reply.Representable ∧ (SessionManager.replyTo sessionId).body = reply.toBytes := by
  have hbytes : [0, 0, 0, 0, 1] =
      AccountingReply.toBytes ⟨.tacPlusAcctStatusSuccess, "", ""⟩ := by decide
  exact ⟨⟨.tacPlusAcctStatusSuccess, "", ""⟩, ⟨by decide, by decide⟩, hbytes⟩

end Wire

end TacacsRs.Networking
