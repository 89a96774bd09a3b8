import TacacsRs.Networking.Progress
import TacacsRs.Networking.ReplyOrigin

/-!
# Calls whose requests are answered

A call that waits for a packet has queued its request, and so has every call
that has taken one. A session that has been sent a packet for each request has
none left to wait: what its calls have taken would be fewer than what has come,
and what has come would still be there.
-/

namespace TacacsRs.Networking

open Rust Messages

/-- The call has its request behind it, and neither a packet nor an end yet. -/
def CallPhase.awaitsPacket : CallPhase → Bool
  | .joiningWrite => true
  | .acquiring => true
  | .receiving => true
  | _ => false

/-- The call waits for a packet or has taken one. -/
def Call.asks (call : Call) : Bool := call.phase.awaitsPacket || call.response.isSome

namespace Session

/-- How many calls of the session wait for a packet or have taken one. -/
def asked (session : Session) : Nat := (session.calls.map fun call => call.asks.toNat).sum

section Poll

variable {session next : Session} {duplexChannel duplexChannel' : DuplexChannel} {index : Nat}
  {call call' : Call} {poll : Poll}

theorem asked_of_calls (hcall : session.calls[index]? = some call)
    (hcalls : next.calls = session.calls.set index call') :
    next.asked + call.asks.toNat = session.asked + call'.asks.toNat := by
  rw [asked, hcalls]
  exact sum_map_set (fun call : Call => call.asks.toNat) hcall call'

theorem asked_le_of_asks (hcall : session.calls[index]? = some call)
    (hcalls : next.calls = session.calls.set index call')
    (h : call'.asks = true → call.asks = true) : next.asked ≤ session.asked := by
  have hsum := asked_of_calls hcall hcalls
  have hle := Bool.toNat_le_toNat h
  omega

/-- A call comes to wait for a packet by queuing its request; it then waits or has taken one, until
it is given up or the connection is gone. -/
theorem Polled.asks (h : Polled session duplexChannel index call poll next duplexChannel') :
    ∃ call', next.calls = session.calls.set index call' ∧
      ((∃ packet, poll = .send ∧ call.phase = .sending packet ∧ call'.asks = true ∧
          duplexChannel'.sender.sent = duplexChannel.sender.sent ++ [packet]) ∨
        duplexChannel'.sender.sent = duplexChannel.sender.sent ∧
          (call'.asks = true → call.asks = true) ∧
          (call.asks = true → call'.asks = true ∨ call'.phase = .abandoned ∨
            duplexChannel.receiver.sendersDropped = true)) := by
  cases h with
  | queue packet hphase hopen hroom => exact ⟨_, rfl, .inl ⟨packet, rfl, hphase, rfl, rfl⟩⟩
  | draw phase hphase hnext =>
      refine ⟨_, rfl, .inr ⟨rfl, fun hasks => ?_, fun hasks => .inl ?_⟩⟩
      · rcases hnext with ⟨packet, rfl, -⟩ | ⟨error, rfl⟩ | rfl
        · simpa [Call.asks, CallPhase.awaitsPacket, hphase] using hasks
        · simpa [Call.asks, CallPhase.awaitsPacket, hphase] using hasks
        · simpa [Call.asks, CallPhase.awaitsPacket, hphase] using hasks
      · have hresponse : call.response.isSome = true := by
          simpa [Call.asks, CallPhase.awaitsPacket, hphase] using hasks
        simp [Call.asks, hresponse]
  | senderClosed hphase | senderOpen hphase | joinRead hphase | receiverClosed hphase
  | receiverOpen hphase | complete hphase | incomplete hphase | queueClosed packet hphase
  | succeed reply hphase =>
      have hsame : call.asks = call.response.isSome := by
        simp [Call.asks, CallPhase.awaitsPacket, hphase]
      exact ⟨_, rfl, .inr ⟨rfl, hsame.trans, fun hasks => .inl (hsame.symm.trans hasks)⟩⟩
  | joinWrite hphase | acquire hphase =>
      have hasks : call.asks = true := by simp [Call.asks, CallPhase.awaitsPacket, hphase]
      exact ⟨_, rfl, .inr ⟨rfl, fun _ => hasks, fun _ => .inl rfl⟩⟩
  | closed hphase hempty hclosed =>
      have hasks : call.asks = true := by simp [Call.asks, CallPhase.awaitsPacket, hphase]
      exact ⟨_, rfl, .inr ⟨rfl, fun _ => hasks, fun _ => .inr (.inr hclosed)⟩⟩
  | reply response receiver reply hphase | malformed response receiver result hphase =>
      have hasks : call.asks = true := by simp [Call.asks, CallPhase.awaitsPacket, hphase]
      exact ⟨_, rfl, .inr ⟨rfl, fun _ => hasks, fun _ => .inl (by simp [Call.asks])⟩⟩
  | abandon =>
      refine ⟨_, rfl, .inr ⟨rfl, fun hasks => ?_, fun _ => .inr (.inl rfl)⟩⟩
      have hresponse : call.response.isSome = true := by
        simpa [Call.asks, CallPhase.awaitsPacket] using hasks
      simp [Call.asks, hresponse]

/-- A packet with the session's id is queued for each call that comes to wait for one. -/
theorem Polled.asked (h : Polled session duplexChannel index call poll next duplexChannel')
    (hcall : session.calls[index]? = some call) (hprepared : session.Prepared) :
    next.asked ≤ session.asked ∨
      ∃ packet, packetSession packet = session.sessionId ∧ next.asked ≤ session.asked + 1 ∧
        duplexChannel'.sender.sent = duplexChannel.sender.sent ++ [packet] := by
  obtain ⟨call', hcalls, ⟨packet, -, hphase, -, hsent⟩ | ⟨-, hold, -⟩⟩ := h.asks
  · obtain ⟨sequenceNumber, -, hpacket⟩ :=
      hprepared call (List.mem_of_getElem? hcall) packet hphase
    obtain ⟨-, rfl⟩ := Packet.new_eq_ok_iff.mp hpacket
    refine .inr ⟨_, rfl, ?_, hsent⟩
    have hsum := asked_of_calls hcall hcalls
    have hone := Bool.toNat_le call'.asks
    omega
  · exact .inl (asked_le_of_asks hcall hcalls hold)

end Poll

theorem asked_sendAccountingRequest (session : Session) (request : AccountingRequest) :
    (session.sendAccountingRequest request).asked = session.asked := by
  simp [asked, sendAccountingRequest, Call.asks, CallPhase.awaitsPacket]

end Session

namespace Connection

variable {connection next : Connection} {action : Action}

/-- A packet with the id of its session is queued for each call that waits for one or has taken
one. -/
def Asks (connection : Connection) : Prop :=
  ∀ session ∈ connection.sessions, session.asked ≤
    (entriesAt packetSession connection.sessionManager.outgoing.sent session.sessionId).length

theorem asks_new : Asks .new := by simp [Asks, new]

theorem Asks.step (h : connection.Asks) (hprepared : ∀ session ∈ connection.sessions,
    session.Prepared) (hstep : Step connection action next) : next.Asks := by
  have hgrows (sessionId : UInt32) :
      (entriesAt packetSession connection.sessionManager.outgoing.sent sessionId).length ≤
        (entriesAt packetSession next.sessionManager.outgoing.sent sessionId).length :=
    (hstep.sent_prefix.filter _).length_le
  have hold {session : Session} (hsession : session ∈ connection.sessions) :=
    (h session hsession).trans (hgrows session.sessionId)
  cases hstep with
  | manage action manager event hpresent howner hstep =>
      intro session hsession
      rcases List.mem_append.mp hsession with hmem | hnew
      · exact hold hmem
      · obtain ⟨sessionId, -, rfl⟩ := List.mem_map.mp hnew
        exact Nat.zero_le _
  | start index request session sessionChannel hsession =>
      intro other hother
      rcases List.mem_or_eq_of_mem_set hother with hmem | rfl
      · exact hold hmem
      · rw [Session.asked_sendAccountingRequest]
        exact hold (List.mem_of_getElem? hsession)
  | poll index callIndex poll session polled sessionChannel duplexChannel hsession hchannel
      hpoll =>
      obtain ⟨call, hcall, hpolled⟩ := Session.poll_eq_some hpoll
      have hmem := List.mem_of_getElem? hsession
      intro other hother
      rcases List.mem_or_eq_of_mem_set hother with hmem | rfl
      · exact hold hmem
      · rw [hpolled.sessionId_eq]
        rcases hpolled.asked hcall (hprepared session hmem) with hless | ⟨packet, hid, hless, hsent⟩
        · exact hless.trans (hold hmem)
        · dsimp only at hsent ⊢
          rw [hsent, entriesAt_concat_self hid, List.length_append]
          exact hless.trans (Nat.succ_le_succ (h session hmem))
  | dropSession | takeOutgoing | closeOutgoing | dropConnection =>
      exact fun session hsession => hold hsession

theorem Asks.complete (h : connection.Asks) {index : Nat} {session : Session}
    (hsession : connection.sessions[index]? = some session) :
    Asks { connection with sessions := connection.sessions.set index session.complete } := by
  intro other hother
  rcases List.mem_or_eq_of_mem_set hother with hmem | rfl
  · exact h other hmem
  · exact h session (List.mem_of_getElem? hsession)

/-- A packet that an owner queues by hand is one more that is queued. -/
theorem Asks.queue (h : connection.Asks) {request : Packet}
    (hroom : connection.sessionManager.outgoing.HasRoom) :
    Asks { connection with sessionManager := { connection.sessionManager with
      outgoing := connection.sessionManager.outgoing.push request hroom } } := by
  intro session hsession
  have hgrows : connection.sessionManager.outgoing.sent <+:
      (connection.sessionManager.outgoing.push request hroom).sent := List.prefix_append _ _
  exact (h session hsession).trans (hgrows.filter _).length_le

/-- What the requests of the calls and the ends of their sessions say in every run. -/
structure Tallied (connection : Connection) : Prop where
  prepared : ∀ session ∈ connection.sessions, session.Prepared
  matched : connection.Matched
  asks : connection.Asks

theorem tallied_new : Tallied .new := ⟨by simp [new], matched_new, asks_new⟩

theorem Tallied.step (h : connection.Tallied) (hstep : Step connection action next) :
    next.Tallied :=
  ⟨hstep.prepared h.prepared, h.matched.step hstep, h.asks.step h.prepared hstep⟩

theorem Tallied.complete (h : connection.Tallied) {index : Nat} {session : Session}
    (hsession : connection.sessions[index]? = some session) :
    Tallied { connection with sessions := connection.sessions.set index session.complete } :=
  ⟨prepared_complete h.prepared hsession, h.matched.complete hsession, h.asks.complete hsession⟩

theorem Tallied.queue (h : connection.Tallied) {request : Packet}
    (hroom : connection.sessionManager.outgoing.HasRoom) :
    Tallied { connection with sessionManager := { connection.sessionManager with
      outgoing := connection.sessionManager.outgoing.push request hroom } } :=
  ⟨h.prepared, h.matched.queue hroom, h.asks.queue hroom⟩

end Connection

namespace Wire

variable {md5 : List UInt8 → Digest} {obfuscationKey : Option (List UInt8)}
  {actions : List RunningConnection.Action} {wire : Wire} {index : Nat}

theorem tallied_of_run (hrun : run (step md5 obfuscationKey) .new actions = some wire) :
    wire.running.connection.Tallied := by
  apply RunningConnection.connection_invariant_of_run Connection.tallied_new _ _ _
    (running_of_run hrun)
  · exact fun connection action next h hstep => h.step hstep
  · exact fun connection index session h hsession => h.complete hsession
  · exact fun connection request h _ hroom => h.queue hroom

/-- The reader has no packet in hand for a session of which a call waits for one. -/
theorem awaiting_of_waits (hrun : run (step md5 obfuscationKey) .new actions = some wire)
    (hidle : wire.running.Idle md5 obfuscationKey) {waiting : Nat}
    (hwaits : wire.running.connection.Waits index waiting) :
    wire.sessionManager.awaiting index = [] := by
  obtain ⟨hconsistent, hgone, hordered⟩ := RunningConnection.orderly_of_run (running_of_run hrun)
  obtain ⟨session, holder, sessionChannel, hsession, hholder, hphase, hchannel, hpending⟩ := hwaits
  cases hsending : wire.sessionManager.sending with
  | none => exact SessionManager.awaiting_of_idle hsending
  | some held =>
      obtain ⟨packet, target⟩ := held
      by_cases htarget : target = index
      · subst htarget
        obtain ⟨other, otherChannel, -, hother, hfull, -⟩ :=
          (hidle.awaitsNetwork hconsistent hgone hordered).reader packet target hsending
        obtain rfl := Option.some.inj (hchannel.symm.trans hother)
        obtain ⟨hempty, -⟩ := Channel.recv_eq_pending_iff.mp hpending
        obtain ⟨-, hroom⟩ := Channel.send_eq_pending_iff.mp hfull
        exact absurd (Channel.hasRoom_of_queue_eq_nil hempty (by decide)) hroom
      · exact SessionManager.awaiting_of_ne hsending htarget

/-- A session of which a call waits was sent fewer packets than it has queued. -/
theorem length_lt_of_waits (hrun : run (step md5 obfuscationKey) .new actions = some wire)
    (hidle : wire.running.Idle md5 obfuscationKey) {session : Session} {waiting : Nat}
    (hsession : wire.running.connection.sessions[index]? = some session)
    (hwaits : wire.running.connection.Waits index waiting) :
    ∃ before, RegistersAfter md5 obfuscationKey actions before index ∧
      (entriesAt packetSession wire.handed session.sessionId).length <
        (entriesAt packetSession before.handed session.sessionId).length +
          (entriesAt packetSession wire.outgoing.sent session.sessionId).length := by
  have htallied := tallied_of_run hrun
  have hawaiting := awaiting_of_waits hrun hidle hwaits
  obtain ⟨_, holder, sessionChannel, hfound, hholder, hphase, hchannel, hpending⟩ := hwaits
  obtain rfl := Option.some.inj (hsession.symm.trans hfound)
  obtain ⟨_, before, later, takers, hother, hregisters, hentries, hlater, hanswered⟩ :=
    exists_answered hrun hsession
  obtain rfl := Option.some.inj (hchannel.symm.trans hother)
  refine ⟨before, hregisters, ?_⟩
  -- the channel is empty, so everything that was sent to the session was taken
  obtain ⟨hempty, -⟩ := Channel.recv_eq_pending_iff.mp hpending
  have hnone : later = [] := by
    rcases hlater with hlater | hdropped
    · exact hlater.trans hawaiting
    · have hover := List.all_eq_true.mp (htallied.matched.finished index session sessionChannel
        hsession hchannel hdropped) holder (List.mem_of_getElem? hholder)
      simp [hphase, CallPhase.isOver] at hover
  have htaken : takers.length = sessionChannel.channel.sent.length := by
    have hall := Channel.received_append_queue sessionChannel.channel
    rw [hempty, List.append_nil] at hall
    rw [← hall]
    exact hanswered.taken.length_eq
  -- the call that waits is none of those that took it
  have hresponse : holder.response = none :=
    (hanswered.settled holder (List.mem_of_getElem? hholder)).response_eq_none
      (by simp [hphase]) (by simp [hphase]) (by simp [hphase])
  have hfresh : waiting ∉ takers := by
    intro hmem
    obtain ⟨_, packet, -, -, htook⟩ := hanswered.taken.exists_item hmem
    rw [Session.responseOf_eq hholder, hresponse] at htook
    simp at htook
  have hasked : (waiting :: takers).length ≤ session.asked := by
    apply length_le_sum_map (List.nodup_cons.mpr ⟨hfresh, hanswered.taken.nodup⟩)
    intro callIndex hmem
    rcases List.mem_cons.mp hmem with rfl | htaker
    · exact ⟨holder, hholder, by simp [Call.asks, CallPhase.awaitsPacket, hphase]⟩
    · obtain ⟨_, packet, -, -, htook⟩ := hanswered.taken.exists_item htaker
      obtain ⟨call, hcall, htookIt⟩ := Session.exists_of_responseOf htook
      exact ⟨call, hcall, by simp [Call.asks, htookIt]⟩
  have hqueued := htallied.asks session (List.mem_of_getElem? hsession)
  rw [hentries, hnone, List.append_nil, List.length_append, ← htaken]
  rw [List.length_cons] at hasked
  exact Nat.add_lt_add_left (hasked.trans hqueued) _

/-- At rest, every call of a session is over that was sent as many packets as it has queued. -/
theorem over_of_answered (hrun : run (step md5 obfuscationKey) .new actions = some wire)
    (hidle : wire.running.Idle md5 obfuscationKey) {session : Session}
    (hsession : wire.running.connection.sessions[index]? = some session) {before : Wire}
    (hregisters : RegistersAfter md5 obfuscationKey actions before index)
    (hanswered : (entriesAt packetSession before.handed session.sessionId).length +
      (entriesAt packetSession wire.outgoing.sent session.sessionId).length ≤
        (entriesAt packetSession wire.handed session.sessionId).length) :
    ∀ call ∈ session.calls, call.phase.isOver = true ∨ wire.running.AwaitsWriter call := by
  obtain ⟨hconsistent, hgone, hordered⟩ := RunningConnection.orderly_of_run (running_of_run hrun)
  intro call hmem
  obtain ⟨callIndex, hcall⟩ := List.mem_iff_getElem?.mp hmem
  cases hgoing : call.phase.isOver with
  | true => exact .inl rfl
  | false =>
      rcases hidle.awaits hconsistent hgone hordered hsession hcall hgoing with
        hwriter | ⟨waiting, hwaits, -⟩
      · exact .inr hwriter
      · obtain ⟨other, hother, hless⟩ := length_lt_of_waits hrun hidle hsession hwaits
        obtain rfl := hregisters.unique hother
        omega

/-- A connection that has come to rest leaves no call waiting in a session for which as many packets
have been read from the stream since its registration as are queued with its id: every call of it is
over, unless it has no room for its request as long as the network does not take what is being
written. -/
theorem calls_end_where_the_peer_answers
    (hrun : run (step md5 obfuscationKey) .new actions = some wire)
    (hidle : wire.running.Idle md5 obfuscationKey) {session : Session}
    (hsession : wire.running.connection.sessions[index]? = some session) {before : Wire}
    (hregisters : RegistersAfter md5 obfuscationKey actions before index)
    (hanswered : (before.arrived md5 obfuscationKey session.sessionId).length +
      (entriesAt packetSession wire.outgoing.sent session.sessionId).length ≤
        (wire.arrived md5 obfuscationKey session.sessionId).length) :
    ∀ call ∈ session.calls, call.phase.isOver = true ∨ wire.running.AwaitsWriter call := by
  have ⟨first, _, _, _, hfirst, _⟩ := hregisters
  rw [arrived_eq hrun, arrived_eq hfirst] at hanswered
  exact over_of_answered hrun hidle hsession hregisters hanswered

/-- Where every call is over and the tasks wait, nothing is left to do. -/
theorem idle_of_over {running : RunningConnection}
    (hover : ∀ session ∈ running.connection.sessions, ∀ call ∈ session.calls,
      call.phase.isOver = true)
    (htasks : ∀ action ∈ [.finishSend, .takeOutgoing, .join, .disableNewSessions, .dropConnection],
      running.step md5 obfuscationKey action = none) : running.Idle md5 obfuscationKey := by
  intro action hlocal
  cases action with
  | finishSend | takeOutgoing | join | disableNewSessions | dropConnection =>
      exact htasks _ (by simp)
  | run | readFrame | readEnd | readFailed | written | writeFailed | queueRequest | dropArc
  | completeSession => simp [RunningConnection.Action.isLocal] at hlocal
  | owner action =>
      cases hstep : running.step md5 obfuscationKey (.owner action) with
      | none => rfl
      | some next =>
          cases RunningConnection.step_eq_some hstep with
          | endRead _ error haction => simp at haction
          | owner _ connection howner harc howned =>
              cases howned with
              | poll index callIndex poll session polled sessionChannel duplexChannel hsession
                  hchannel hpoll =>
                  obtain ⟨call, hcall, hpolled⟩ := Session.poll_eq_some hpoll
                  have hended := hover session (List.mem_of_getElem? hsession) call
                    (List.mem_of_getElem? hcall)
                  simp [hpolled.isOver_eq] at hended
              | manage | start | dropSession | takeOutgoing | closeOutgoing | dropConnection =>
                  simp [RunningConnection.Action.isLocal] at hlocal

/-- The fourth step of `repliedRun` registers the session. -/
theorem registersAfter_repliedRun (hkey : obfuscationKey ∈ [none, some [107]]) : ∃ before,
    RegistersAfter RunningConnection.noDigest obfuscationKey repliedRun before 0 ∧
      before.handed = [] := by
  have hfacts : ∀ obfuscationKey ∈ [none, some [107]],
      (run (step RunningConnection.noDigest obfuscationKey) .new (repliedRun.take 3)).map
        (fun wire => (wire.handed, wire.sessionManager.sessions.length,
          (wire.step RunningConnection.noDigest obfuscationKey repliedRun[3]).map fun after =>
            after.sessionManager.sessions.length)) = some ([], 0, some 1) := by decide +kernel
  obtain ⟨before, hbefore, hfields⟩ := Option.map_eq_some_iff.mp (hfacts _ hkey)
  simp only [Prod.mk.injEq, Option.map_eq_some_iff] at hfields
  obtain ⟨hnone, hfirst, after, hafter, hlength⟩ := hfields
  exact ⟨before, ⟨repliedRun.take 3, repliedRun[3], after, ⟨repliedRun.drop 4, rfl⟩, hbefore,
    hafter, Nat.le_of_eq hfirst, hlength ▸ Nat.one_pos⟩, hnone⟩

theorem idle_repliedRun (hkey : obfuscationKey ∈ [none, some [107]])
    (hrun : run (step RunningConnection.noDigest obfuscationKey) .new repliedRun = some wire) :
    wire.running.Idle RunningConnection.noDigest obfuscationKey := by
  have hfacts : ∀ obfuscationKey ∈ [none, some [107]],
      (run (step RunningConnection.noDigest obfuscationKey) .new repliedRun).map
        (fun wire => (wire.running.connection.sessions.all fun session =>
            session.calls.all fun call => call.phase.isOver,
          [RunningConnection.Action.finishSend, .takeOutgoing, .join, .disableNewSessions,
            .dropConnection].all fun action =>
              (wire.running.step RunningConnection.noDigest obfuscationKey action).isNone)) =
      some (true, true) := by decide +kernel
  have hfields := hfacts _ hkey
  rw [hrun, Option.map_some, Option.some.injEq] at hfields
  simp only [Prod.mk.injEq, List.all_eq_true, Option.isNone_iff_eq_none] at hfields
  exact idle_of_over hfields.1 hfields.2

/-- The first session of `repliedRun` has queued two requests and was sent two packets. -/
theorem calls_end_where_the_peer_answers_repliedRun :
    ∃ wire, run (step RunningConnection.noDigest (some [107])) .new repliedRun = some wire ∧
      ∃ session : Session, wire.running.connection.sessions[0]? = some session ∧
        (entriesAt packetSession wire.outgoing.sent session.sessionId).length = 2 ∧
        ∀ call ∈ session.calls, call.phase.isOver = true ∨ wire.running.AwaitsWriter call := by
  have hfacts : (run (step RunningConnection.noDigest (some [107])) .new repliedRun).map
      (fun wire => wire.running.connection.sessions[0]?.map fun session =>
          ((entriesAt packetSession wire.outgoing.sent session.sessionId).length,
            (entriesAt packetSession wire.handed session.sessionId).length)) =
      some (some (2, 2)) := by decide +kernel
  obtain ⟨before, hregisters, hnone⟩ :=
    registersAfter_repliedRun (List.mem_cons_of_mem _ (List.mem_singleton_self _))
  have ⟨first, _, _, _, hfirst, _⟩ := hregisters
  obtain ⟨wire, hrun, hfields⟩ := Option.map_eq_some_iff.mp hfacts
  simp only [Prod.mk.injEq, Option.map_eq_some_iff] at hfields
  obtain ⟨session, hsession, hsent, hhanded⟩ := hfields
  have hanswered : (before.arrived RunningConnection.noDigest (some [107])
      session.sessionId).length +
      (entriesAt packetSession wire.outgoing.sent session.sessionId).length ≤
        (wire.arrived RunningConnection.noDigest (some [107]) session.sessionId).length := by
    rw [arrived_eq hfirst, arrived_eq hrun, hnone, hsent, hhanded]
    exact Nat.le_refl 2
  exact ⟨wire, hrun, session, hsession, hsent, calls_end_where_the_peer_answers hrun
    (idle_repliedRun (List.mem_cons_of_mem _ (List.mem_singleton_self _)) hrun) hsession hregisters
    hanswered⟩

end Wire

end TacacsRs.Networking
