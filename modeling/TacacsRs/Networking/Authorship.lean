import TacacsRs.Rust.Attribution
import TacacsRs.Networking.HandleConnection
import TacacsRs.Networking.PadReuse

/-!
# Where the packets on the outgoing queue come from

A call draws its number, makes its packet and queues it, and none of the three
a second time. So each queued packet is that of one call, made of the request
which the call was given and of the number that it drew. What the owners of the
sessions queue by themselves is left out.
-/

namespace TacacsRs.Networking

open Rust Messages TacacsFlags

namespace Session

/-- The packet of a request carries the whole request, and says how long it is if it is shorter
than 4 GiB. -/
theorem requestPacket_eq_ok {session : Session} {sequenceNumber : UInt8}
    {request : AccountingRequest} {packet : Packet}
    (h : session.requestPacket sequenceNumber request = .ok packet) :
    packet.body = request.toBytes ∧
      packet.header.tacacsType = .tacPlusAccounting ∧
      packet.header.flags = tacPlusUnencryptedFlag ∧
      (request.toBytes.length < 2 ^ 32 → packet.body.length = packet.header.length.toNat) := by
  obtain ⟨-, rfl⟩ := Packet.new_eq_ok_iff.mp h
  refine ⟨rfl, rfl, rfl, fun hlength => ?_⟩
  exact (UInt32.toNat_ofNat_of_lt' hlength).symm

theorem requestPacket_congr {session session' : Session}
    (h : session'.sessionId = session.sessionId) :
    session'.requestPacket = session.requestPacket := by
  funext sequenceNumber request
  rw [requestPacket, requestPacket, h]

/-- A call that has a packet to queue made it from its request and from the number it drew. -/
def Prepared (session : Session) : Prop :=
  ∀ call ∈ session.calls, ∀ packet, call.phase = .sending packet →
    ∃ sequenceNumber, call.sequenceNumber = some sequenceNumber ∧
      session.requestPacket sequenceNumber call.request = .ok packet

section Poll

variable {session next : Session} {duplexChannel duplexChannel' : DuplexChannel} {index : Nat}
  {call : Call} {poll : Poll}

/-- A poll leaves a call its request, and its number once it has drawn one. -/
theorem Polled.keeps (h : Polled session duplexChannel index call poll next duplexChannel') :
    ∃ call', next.calls = session.calls.set index call' ∧ call'.request = call.request ∧
      (call.phase.beforeDraw = false → call'.sequenceNumber = call.sequenceNumber) ∧
      (∀ packet, call'.phase = .sending packet →
        ∃ sequenceNumber, call'.sequenceNumber = some sequenceNumber ∧
          session.requestPacket sequenceNumber call.request = .ok packet) := by
  cases h with
  | draw phase hphase hnext =>
      refine ⟨_, rfl, rfl, by simp [hphase, CallPhase.beforeDraw], ?_⟩
      intro packet hsending
      rcases hnext with ⟨packet', rfl, hpacket⟩ | ⟨error, rfl⟩ | rfl
      · obtain rfl := CallPhase.sending.inj hsending
        exact ⟨_, rfl, hpacket⟩
      · simp at hsending
      · simp at hsending
  | senderClosed | senderOpen | joinRead | receiverClosed | receiverOpen | complete | incomplete
  | queue | queueClosed | joinWrite | acquire | closed | reply | malformed | succeed | abandon =>
      exact ⟨_, rfl, rfl, fun _ => rfl, by simp⟩

theorem prepared_new (sessionId : UInt32) : (new sessionId).Prepared := by simp [Prepared, new]

theorem Prepared.sendAccountingRequest (h : session.Prepared) (request : AccountingRequest) :
    (session.sendAccountingRequest request).Prepared := by
  intro call hcall packet hphase
  rcases List.mem_append.mp hcall with hold | hnew
  · exact h call hold packet hphase
  · obtain rfl := List.mem_singleton.mp hnew
    simp at hphase

theorem Prepared.polled (h : session.Prepared)
    (hpolled : Polled session duplexChannel index call poll next duplexChannel') :
    next.Prepared := by
  obtain ⟨call', hcalls, hrequest, -, hpacket⟩ := hpolled.keeps
  intro other hother packet hphase
  rw [requestPacket_congr hpolled.sessionId_eq]
  rw [hcalls] at hother
  rcases List.mem_or_eq_of_mem_set hother with hold | rfl
  · exact h other hold packet hphase
  · rw [hrequest]
    exact hpacket packet hphase

end Poll

end Session

namespace Connection

/-- The call has made the packet, and has it behind it. -/
def Wrote (connection : Connection) (author : Nat × Nat) (packet : Packet) : Prop :=
  ∃ session call sequenceNumber, connection.sessions[author.1]? = some session ∧
    session.calls[author.2]? = some call ∧ call.phase.beforeSend = false ∧
    call.sequenceNumber = some sequenceNumber ∧
    session.requestPacket sequenceNumber call.request = .ok packet

/-- The packets on the outgoing queue were made by one call each. -/
structure Authored (connection : Connection) (authors : List (Nat × Nat)) : Prop where
  prepared : ∀ session ∈ connection.sessions, session.Prepared
  authored : Attributed connection.Wrote authors connection.sessionManager.outgoing.sent

theorem authored_new : Authored .new [] := ⟨by simp [new], attributed_nil⟩

section Step

variable {connection next : Connection} {action : Action} {author : Nat × Nat} {packet : Packet}
  {authors : List (Nat × Nat)}

theorem Wrote.of_sessions (h : connection.Wrote author packet)
    (hsessions : next.sessions = connection.sessions) : next.Wrote author packet := by
  rw [Wrote, hsessions]
  exact h

/-- A session that is replaced by one with the same id and the same calls, but for new ones behind
them, has written what it had. -/
theorem Wrote.set (h : connection.Wrote author packet) {index : Nat} {session updated : Session}
    (hsession : connection.sessions[index]? = some session)
    (hnext : next.sessions = connection.sessions.set index updated)
    (hid : updated.sessionId = session.sessionId)
    (hcalls : ∀ (callIndex : Nat) (call : Call), session.calls[callIndex]? = some call →
      call.phase.beforeSend = false → ∃ call', updated.calls[callIndex]? = some call' ∧
        call'.phase.beforeSend = false ∧ call'.request = call.request ∧
        call'.sequenceNumber = call.sequenceNumber) : next.Wrote author packet := by
  obtain ⟨found, call, sequenceNumber, hfound, hcall, hsent, hnumber, hpacket⟩ := h
  by_cases hindex : author.1 = index
  · obtain rfl : session = found := by
      rw [hindex, hsession] at hfound
      exact Option.some.inj hfound
    obtain ⟨call', hcall', hsent', hrequest, hnumber'⟩ := hcalls author.2 call hcall hsent
    refine ⟨updated, call', sequenceNumber, ?_, hcall', hsent', hnumber'.trans hnumber, ?_⟩
    · rw [hnext, hindex]
      exact getElem?_set_of_some hsession updated
    · rw [hrequest, Session.requestPacket_congr hid]
      exact hpacket
  · refine ⟨found, call, sequenceNumber, ?_, hcall, hsent, hnumber, hpacket⟩
    rw [hnext, List.getElem?_set_ne (Ne.symm hindex)]
    exact hfound

/-- What a call has written stays as it is. -/
theorem Wrote.step (h : connection.Wrote author packet) (hstep : Step connection action next) :
    next.Wrote author packet := by
  cases hstep with
  | manage action manager event hpresent howner hstep =>
      obtain ⟨session, call, sequenceNumber, hsession, hwritten⟩ := h
      exact ⟨session, call, sequenceNumber, getElem?_append_of_some hsession _, hwritten⟩
  | start index request session sessionChannel hsession =>
      refine h.set hsession rfl rfl fun callIndex call hcall hsent => ?_
      exact ⟨call, getElem?_append_of_some hcall _, hsent, rfl, rfl⟩
  | poll index callIndex poll session polled sessionChannel duplexChannel hsession hchannel
      hpoll =>
      obtain ⟨running, hrunning, hpolled⟩ := Session.poll_eq_some hpoll
      obtain ⟨call', hcalls, hrequest, hnumber, -⟩ := hpolled.keeps
      obtain ⟨call'', hcalls', -, hnumbers⟩ := hpolled.numbers
      obtain rfl : call' = call'' := set_inj_of_some hrunning (hcalls.symm.trans hcalls')
      refine h.set hsession rfl hpolled.sessionId_eq fun other call hcall hsent => ?_
      rw [hcalls]
      by_cases hother : other = callIndex
      · subst hother
        obtain rfl : running = call := Option.some.inj (hrunning.symm.trans hcall)
        refine ⟨call', getElem?_set_of_some hrunning call', hnumbers.sent hsent, hrequest, ?_⟩
        exact hnumber (Bool.eq_false_iff.mpr fun hbefore =>
          Bool.false_ne_true (hsent.symm.trans (CallPhase.beforeSend_of_beforeDraw hbefore)))
      · rw [List.getElem?_set_ne (Ne.symm hother)]
        exact ⟨call, hcall, hsent, rfl, rfl⟩
  | dropSession | takeOutgoing | closeOutgoing | dropConnection => exact h.of_sessions rfl

theorem Step.prepared (hstep : Step connection action next)
    (h : ∀ session ∈ connection.sessions, session.Prepared) :
    ∀ session ∈ next.sessions, session.Prepared := by
  cases hstep with
  | manage action manager event hpresent howner hstep =>
      intro session hsession
      rcases List.mem_append.mp hsession with hold | hnew
      · exact h session hold
      · obtain ⟨sessionId, -, rfl⟩ := List.mem_map.mp hnew
        exact Session.prepared_new sessionId
  | start index request session sessionChannel hsession =>
      intro other hother
      rcases List.mem_or_eq_of_mem_set hother with hold | rfl
      · exact h other hold
      · exact (h session (List.mem_of_getElem? hsession)).sendAccountingRequest request
  | poll index callIndex poll session polled sessionChannel duplexChannel hsession hchannel
      hpoll =>
      obtain ⟨running, -, hpolled⟩ := Session.poll_eq_some hpoll
      intro other hother
      rcases List.mem_or_eq_of_mem_set hother with hold | rfl
      · exact h other hold
      · exact (h session (List.mem_of_getElem? hsession)).polled hpolled
  | dropSession | takeOutgoing | closeOutgoing | dropConnection => exact h

theorem prepared_complete (h : ∀ session ∈ connection.sessions, session.Prepared) {index : Nat}
    {session : Session} (hsession : connection.sessions[index]? = some session) :
    ∀ other ∈ connection.sessions.set index session.complete, other.Prepared := by
  intro other hother
  rcases List.mem_or_eq_of_mem_set hother with hold | rfl
  · exact h other hold
  · exact h session (List.mem_of_getElem? hsession)

/-- A call that has its packet behind it after its poll has made it. -/
theorem Step.wrote_of_queued {index callIndex : Nat} {call call' : Call}
    (hstep : Step connection (.poll index callIndex .send) next)
    (hprepared : ∀ session ∈ connection.sessions, session.Prepared)
    (hcall : connection.callAt index callIndex = some call) (hphase : call.phase = .sending packet)
    (hcall' : next.callAt index callIndex = some call')
    (hafter : call'.phase.beforeSend = false) : next.Wrote (index, callIndex) packet := by
  cases hstep with
  | poll _ _ _ session polled sessionChannel duplexChannel hsession hchannel hpoll =>
      obtain ⟨running, hrunning, hpolled⟩ := Session.poll_eq_some hpoll
      obtain rfl : running = call := by
        obtain ⟨found, hfound, hcalls⟩ := callAt_eq_some_iff.mp hcall
        obtain rfl := Option.some.inj (hsession.symm.trans hfound)
        exact Option.some.inj (hrunning.symm.trans hcalls)
      obtain ⟨sequenceNumber, hnumber, hpacket⟩ := hprepared session
        (List.mem_of_getElem? hsession) running (List.mem_of_getElem? hrunning) packet hphase
      obtain ⟨kept, hkeptCalls, hrequest, hkeptNumber, -⟩ := hpolled.keeps
      have hfound : polled.calls[callIndex]? = some kept := by
        rw [hkeptCalls]
        exact getElem?_set_of_some hrunning kept
      have hfoundSession := getElem?_set_of_some hsession polled
      obtain rfl : kept = call' := by
        obtain ⟨found, hfoundNext, hfoundCall⟩ := callAt_eq_some_iff.mp hcall'
        obtain rfl := Option.some.inj (hfoundSession.symm.trans hfoundNext)
        exact Option.some.inj (hfound.symm.trans hfoundCall)
      refine ⟨polled, kept, sequenceNumber, hfoundSession, hfound, hafter, ?_, ?_⟩
      · rw [hkeptNumber (by simp [hphase, CallPhase.beforeDraw]), hnumber]
      · rw [hrequest, Session.requestPacket_congr hpolled.sessionId_eq, hpacket]

/-- A step leaves the authors alone, or adds the call that queues its packet. -/
theorem Authored.step_cases (h : connection.Authored authors)
    (hstep : Step connection action next) :
    (next.sessionManager.outgoing.sent = connection.sessionManager.outgoing.sent ∧
        next.Authored authors) ∨
      ∃ index callIndex packet, action = .poll index callIndex .send ∧
        next.sessionManager.outgoing.sent = connection.sessionManager.outgoing.sent ++ [packet] ∧
        next.Authored (authors ++ [(index, callIndex)]) := by
  have hkept : Attributed next.Wrote authors connection.sessionManager.outgoing.sent :=
    h.authored.imp fun author packet hwrote => hwrote.step hstep
  rcases hstep.outgoing with hsame |
    ⟨index, callIndex, call, packet, call', rfl, hcall, hphase, hcall', hafter, hqueued⟩
  · exact .inl ⟨hsame, hstep.prepared h.prepared, hsame ▸ hkept⟩
  obtain ⟨session, hsession, hcalls⟩ := callAt_eq_some_iff.mp hcall
  have hfresh : (index, callIndex) ∉ authors := by
    intro hmem
    obtain ⟨place, other, -, -, found, before, -, hfound, hbefore, hsent, -⟩ :=
      h.authored.exists_item hmem
    obtain rfl : session = found := Option.some.inj (hsession.symm.trans hfound)
    obtain rfl : call = before := Option.some.inj (hcalls.symm.trans hbefore)
    rw [hphase] at hsent
    simp [CallPhase.beforeSend] at hsent
  have hwrote : next.Wrote (index, callIndex) packet :=
    hstep.wrote_of_queued h.prepared hcall hphase hcall' hafter
  refine .inr ⟨index, callIndex, packet, rfl, hqueued, hstep.prepared h.prepared, ?_⟩
  rw [hqueued]
  exact hkept.add hfresh hwrote

theorem Authored.step (h : connection.Authored authors) (hstep : Step connection action next) :
    ∃ authors', next.Authored authors' := by
  rcases h.step_cases hstep with ⟨-, hsame⟩ | ⟨index, callIndex, packet, -, -, hmore⟩
  · exact ⟨authors, hsame⟩
  · exact ⟨authors ++ [(index, callIndex)], hmore⟩

theorem Authored.complete (h : connection.Authored authors) {index : Nat} {session : Session}
    (hsession : connection.sessions[index]? = some session) :
    Authored { connection with sessions := connection.sessions.set index session.complete }
      authors where
  prepared := prepared_complete h.prepared hsession
  authored := h.authored.imp fun _ _ hwrote =>
    hwrote.set hsession rfl rfl fun _ call hcall hsent => ⟨call, hcall, hsent, rfl, rfl⟩

end Step

end Connection

/-- In every run in which nothing is queued by hand, the packets on the outgoing queue were made by
one call each. -/
theorem RunningConnection.exists_authors {md5 : List UInt8 → Digest}
    {obfuscationKey : Option (List UInt8)} {actions : List RunningConnection.Action}
    (hunqueued : ∀ index request, .queueRequest index request ∉ actions)
    {running : RunningConnection}
    (hrun : Rust.run (RunningConnection.step md5 obfuscationKey) .new actions = some running) :
    ∃ authors, running.connection.Authored authors := by
  refine connection_invariant_of_unqueued (P := fun connection =>
    ∃ authors, connection.Authored authors) ⟨[], Connection.authored_new⟩ ?_ ?_ hunqueued hrun
  · rintro connection action next ⟨authors, hauthors⟩ hstep
    exact hauthors.step hstep
  · rintro connection index session ⟨authors, hauthors⟩ hsession
    exact ⟨authors, hauthors.complete hsession⟩

end TacacsRs.Networking
